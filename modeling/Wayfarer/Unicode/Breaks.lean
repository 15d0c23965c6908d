import Wayfarer.Unicode.Packed

/-!
Where a text may be parted, by Unicode 16: the properties Grapheme_Cluster_Break, Word_Break and
Sentence_Break. Their values are labelled from 1 on in the order of their names; 0 stands for code
points without a value of their own.
-/
namespace Wayfarer.Unicode

/-- A property that gives each code point one of several values. -/
structure Breaks where
  /-- All spellings of each value, in small letters and without separators. -/
  names : List (List String)
  packed : List String

namespace Breaks

/-- The code points that have the value of a normalized name. -/
def find? (b : Breaks) (name : String) : Option CodeSet :=
  (b.names.findIdx? (·.contains name)).map fun i => Packed.labelled (Packed.runs b.packed) (i + 1)

/-- Parts of what is seen as one character. -/
def graphemeNames : List (List String) :=
  [["lv"],
   ["lvt"],
   ["ex", "extend"],
   ["sm", "spacingmark"],
   ["cn", "control"],
   ["pp", "prepend"],
   ["v"],
   ["l"],
   ["t"],
   ["cr"],
   ["lf"],
   ["ri", "regionalindicator"],
   ["zwj"]]

def graphemePacked : List String :=
  ["FJLAFBKAFRAieFhAAMFAAyRDjPAoSDGAoGDhMAADAAADBAADBAADAAhXGFAJDKAAFAAhNDUAPDAAjEDGGAAADFABDBAA",
   "DDAhAGAAADAAdDaAiaDKAhZDIAIDAAXDDAADIAADCAADEAhKDCAhTGBAEDIAhJDXGADfEAAhVDAEADAAAECDHEDDAEBA",
   "ADGAJDBAcDAEBAhXDAAADAEBDDABEBABEBDAAIDAAJDBAZDAABDBEAAhXDAAAECDBADDBABDCACDAAdDBACDAAKDBEAA",
   "hXDAAAECDEAADBEAAAEBDAATDBAVDFAADAEBAhXDAAADBEADDABEBABEBDAAGDCAJDBAdDAAhaDAEADAEBACECAAECDA",
   "AIDAAhHDAECDAAhWDAAADCEDAADCAADDAGDBAKDBAcDAEBAhXDAAAEADBEADAEBAADCAADDAGDBAKDBAOEAALDBEBAhW",
   "DBAADAEBDDAAECAAECDAGAAHDAAJDBAcDAEBAiFDAADDAEBDCAADAAAEGDAAREBAhcDAAAEADGALDHAjBDAAAEADIAKD",
   "GAiIDBAaDAAADAAADAADEBAhQDNEADEAADBAEDKAADhDAIDAAjFDDEADFAADBEBDBAWEBDBADDCAPDDAMDAAAEADBAFD",
   "AAODAAjBIifHiHJiXAqcDCA9RDDAbDCAcDBAdDBAhfDBEADGEHDAEBDKAIDAAhMDCFADAAjUDBAhBDAAjVDCEDDBECAD",
   "EBDAEFDCAmaDBEBDAAhYEADAEADGAADAAADAABDHEFDJABDAAhPDeAhQDDEAAhODJEDDCAhFDIALDBEAAdEADDEBDFAh",
   "XDAEADBECDAEADEAhPEHDHEBDBAkXDCAADMEADGADDAAFDAABEADBAmFDhfAwKFADANAFBAXFGAhQFPAifDhAAi_dDCA",
   "kMDAAifDfAxJDFAjIDBA9uTDDAADJAfDBAiPDBAoPDAACDAADDAAWEBDBEAADDAAiSEBAhREPDBAZDRAMDAAhFDHAYDK",
   "EADAALIcACDCEAAhODAEBDDEBDBEBDAAhDDAAiCDFEBDBEBDBALDAAHDAEAAhNDAAhSDAAADCABDBAEDBAADAAhIEADB",
   "EBAEEADAAnLEBDAEBDAEBAAEADAARBACaBACaBACaBACaBACaBACaBACaBACaBACaBACaBACaBACaBACaBACaBACaBAC",
   "aBACaBACaBACaBACaBACaBACaBACaBACaBACaBACaBACaBACaBACaBACaBACaBACaBACaBACaBACaBACaBACaBACaBAC",
   "aBACaBACaBACaBACaBACaBACaBACaBACaBACaBACaBACaBACaBACaBACaBACaBACaBACaBACaBACaBACaBACaBACaBAC",
   "aBACaBACaBACaBACaBACaBACaBACaBACaBACaBACaBACaBACaBACaBACaBACaBACaBACaBACaBACaBACaBACaBACaBAC",
   "aBACaBACaBACaBACaBACaBACaBACaBACaBACaBACaBACaBACaBACaBACaBACaBACaBACaBACaBACaBACaBACaBACaBAC",
   "aBACaBACaBACaBACaBACaBACaBACaBACaBACaBACaBACaBACaBACaBACaBACaBACaBACaBACaBACaBACaBACaBACaBAC",
   "aBACaBACaBACaBACaBACaBACaBACaBACaBACaBACaBACaBACaBACaBACaBACaBACaBACaBACaBACaBACaBACaBACaBAC",
   "aBACaBACaBACaBACaBACaBACaBACaBACaBACaBACaBACaBACaBACaBACaBACaBACaBACaBACaBACaBACaBACaBACaBAC",
   "aBACaBACaBACaBACaBACaBACaBACaBACaBACaBACaBACaBACaBACaBACaBACaBACaBACaBACaBACaBACaBACaBACaBAC",
   "aBACaBACaBACaBACaBACaBACaBACaBACaBACaBACaBACaBACaBACaBACaBACaBACaBACaBACaBACaBACaBACaBACaBAC",
   "aBACaBACaBACaBACaBACaBACaBACaBACaBACaBACaBACaBACaBACaBACaBACaBACaBACaBACaBACaBACaBACaBACaBAC",
   "aBACaBACaBACaBACaBACaBACaBACaBACaBACaBACaBACaBACaBACaBACaBACaBACaBACaBACaBACaBACaBACaBACaBAC",
   "aBACaBACaBACaBACaBACaBACaBACaBACaBACaBACaBACaBACaBACaBACaBACaBACaBACaBACaBACaBACaBACaBACaBAC",
   "aBACaBACaBACaBACaBACaBACaBACaBACaBACaBACaBACaBACaBACaBACaBACaBACaBACaBACaBACaBACaBACaBACaBAC",
   "aBACaBACaBACaBACaBACaBACaBACaBACaBACaBACaBACaBACaBACaBACaBACaBACaBACaBACaBACaBACaBACaBACaBAC",
   "aBACaBACaBACaBACaBACaBACaBACaBACaBACaBACaBACaBACaBACaBACaBACaBACaBACaBACaBACaBACaBACaBACaBAC",
   "aBACaBACaBACaBACaBACaBACaBACaBACaBACaBACaBACaBACaBACaBACaBACaBACaBACaBACaBACaBACaBACaBACaBAC",
   "aBACaBACaBACaBACaBACaBACaBACaBACaBACaBACaBACaBACaBACaBACaBACaALHWADJhQAo5BDAA3ADPAPDPAmOFAAk",
   "dDBAiPFLAwADAAnBDAAkUDEAh0FDCAADBAEDDAhHDCADDAAlEDBAxcDDAiADEApcDBAiODDAiFDKAhQDDAjZEADAEAAh",
   "UDOAhIDAABDBAJDCEAAhMECDDEBDBABGAADDAAJGAAhRDCAhDDEEADHAPEBAhLDAALDBEAAhPECDIEADAAAGBAEDDAAE",
   "ADAAibECDCEBDDAFDAABDAAkcDAECDHAUDBEBAhWDBAADAEADAEDABEBABEBDAAIDAAJEBABDGACDEAiCDAEBDFAADAA",
   "BDAAADCEAAAEBDCGADAANDBAiRECDHEBDCEADAAWDAAiQDAEBDFEADAEBDAEADBEADBAnKDAEBDDABEDDBEADBAaDBAi",
   "RECDHEBDAEADBAjJDAEADAEBDHAjEDAEADAABDDEADEAnfECDIEADBAnUDAEEAAEBABDDGAEAGAEADAAkMECDDABDBED",
   "DAACEAAbDJAhHDFEAGADDAHDAAIDFEBDCAhHGFDMEADBAsUEADGAADFEADAAiRDVAAEADGEADBEADBAjZDFACDAAADBA",
   "ADGGADAAiBEEAADBAAEBDAEADAAqaDBEBAIDBGAEAAhPEBDEACEBDCAWDAAlmUFPDAAFDOArmHDLECDCAitfDEAhaDGA",
   "xLHAACHDAvDDAAAEhWAGDDAiQDAAKDBAzlKDBAAFDAkybDhNABDWAwdDEACDFFHDHABDGAdDDAkTDCAh9aDhWADDhRAH",
   "DAANDAAVDEAADOAhqPDGAADQABDGAADBAADEAjDDAAkfDGArWDAAhcDDAvbDDAndDBA2fDGAjMDGAikaMZAvaDEA4i_f",
   "FfDifFjfDnPFjwPAl7_f"]

def grapheme : Breaks :=
  ⟨graphemeNames, graphemePacked⟩

/-- Parts of words. -/
def wordNames : List (List String) :=
  [["le", "aletter"],
   ["extend"],
   ["nu", "numeric"],
   ["ka", "katakana"],
   ["mn", "midnum"],
   ["fo", "format"],
   ["hl", "hebrewletter"],
   ["ml", "midletter"],
   ["ex", "extendnumlet"],
   ["mb", "midnumlet"],
   ["wsegspace"],
   ["nl", "newline"],
   ["cr"],
   ["dq", "doublequote"],
   ["lf"],
   ["ri", "regionalindicator"],
   ["sq", "singlequote"],
   ["zwj"]]

def wordPacked : List String :=
  ["AJPAMBNAARLAAAOAADRAADFAAAKAAADJIAFAAEBZADJAAABZAJMAAhDBAABGAAGBAAAIABAAABAAEBWAABeAABufAFBh",
   "BCjPBEAABBABBDFABAAFBAIABCAABAAABTAABiSAABkKAACGBlFAABhFABBDAABAIABhIFABAAFChMAACAAACBAACBAA",
   "CAAHHaADHDBAIAAKDFAFFBABCKAAGAACBhKCUDJAADAFAAABBCABjCAABACGDAAACFBBCBAACDBBDJBCABBAAOBBCABd",
   "CaABBiYCKBAANDJBhACIBBABFAAABAABCAABBVCDBACIBACCBACEARBYCCADBKAEBXAABFAADBAECIBhJCXDAChABhVC",
   "CBACRBACGBJCBABDJAABPCCAABHABBBABBVAABGAABAACBDABCABACGABCBABCCBAAHCAADBBAABCCBABDJBBAJBAAAC",
   "AABCCAABFADBBABBVAABGAABBAABBAABBABCAAACEADCBABCCACCAAGBDAABAAGDJCBBCCAAKCCAABIAABCAABVAABGA",
   "ABBAABEABCABACHAACCAACCABBAAOBBCBABDJAIBACFAACCAABHABBBABBVAABGAABBAABEABCABACGABCBABCCAGCCA",
   "DBBAABCCBABDJAABAAPCABAAABFACBCAABDACBBAABAAABBACBBACBCACBLADCEACCCAACDABBAAFCAANDJAPCEBHAAB",
   "CAABWAABPABCABACGAACCAACDAGCBAABCABBAABBBCBABDJAPBACCAABHAABCAABWAABJAABEABCABACGAACCAACDAGC",
   "BAFBBAABBCBABDJAABBCAALCDBIAABCAABhICBBACGAACCAACDBAAEBCCAAGBCCBABDJAJBFAACCAABRACBXAABIAABA",
   "ABBGACCAADCFAACAAACHAFDJABCBAhcCAABCGALCHAADJAiWCAABCIAKCGAADJAhFBAAWCBAFDJAKCAAACAAACAADCBB",
   "HAABhDADCTAACBBECKAAChDAICAAjDCTAADJALCDADCCAACCABCGACCDAMCLAACADJCDABBhFAABAAEBAABBhKAABqMA",
   "ABDABBGAABAAABDABBhIAABDABBhAAABDABBGAABAAABDABBOAABhYAABDABBiCABCCAfBPAPBiVABBFACBzLABBQLAB",
   "ZAEBiKACBKAGBRCDAIBSCCAKBRCBALBMAABCAACBAhfCfAICAABDJAhACCGACADJAFBiYAGBECBBhBCABAAEBiFAJBeA",
   "ACLADCLAJDJAjfDJAhFBWCEAhYCJAACcABCADJAFDJAVCeAhQCEBhOCQBHACDJAQCIALCCBdCMBBDJBhLCNALBhDCTAH",
   "DJACBCDJBhDABBKAEBhKABBCAPCCAACUBDCABFCABBCCBAAEBlfChfBoVABBFABBhFABBFABBHAABAAABAAABAAABeAB",
   "BhUAABGAABAACBCAABGACBDABBFADBMAEBCAABGACLGAALCAACASAGBAHKBAJKAABIAMBGEJAAOJBACFAAOJAAJLAGEA",
   "AGJAABAAMBAAPBMAhSChAAQBAADBAABBJAABAACBEAFBAAABAAABAAABDAABKABBDAEBEADBAAQBhIA5MBhTAh4VBnEA",
   "FBDCCBBALBhFAABAAEBAABBhXAGBAAOCABWAIBGAABGAABGAABGAABGAABGAABGAABGAACfAhOBAAuPLAADBAAhDCFAA",
   "EEAEBBAibCBEBACEiaAAEDAEBhKAABidAQBfAhPEPAmPEhOAAEiXA7lHBhkMAiCBhNABBoMACBPDJBBATBhOCDAACJAA",
   "BeCBBiPCBAVBmFABBBAABAAABHAUBPCABCCABDCABWCEADCAASBhTALCBBhRCRAJDJAFCRBFACBAAABBCADJBbCHABBW",
   "CMALBcACCDBhOCNANBADJAKCAAJDJAFBhICNAIBCCABHCBABDJAhACCAhRCAAACCABCBAECBAACAAdBKCEABBCCBAJBF",
   "ABBFABBFAIBGAABGAABhZAFBjSCHAACBABDJAFBq9DALBWADBhQAo4DBGALBEAEHACAHJAAHMAAHEAAHAAAHBAAHBAAH",
   "JBjBAhABrKARBhfABBhVAhHBLADCPFAABIAFAAKCPACJBAXJCFAAAKAAAFAIAAZBEAABkGABGAAGKAADFAAAKAAADJIA",
   "FAAEBZADJAAABZAKEhXCBBeACBFABBFABBFABBCAbGCADBLAABZAABSAABBAABOABBNAhBBjaAiEBhUAkHCAAkBBcACB",
   "hQAOCAAeBfAMBdAEBhFCEAEBdABBhDADBHAABEAhJBkdABDJAFBhDADBhDADBhHAHBhTALBKAABOAABGAABBAABKAABO",
   "AABGAABBACBhTALBpWAIBVAJBHAXBFAABhJAABIAiEBFABBAAABhLAABBACBAABBWAJBWAIBeAiABSAABBAJBVAJBZAi",
   "FBhXAFBBAhfBACCAACBAECDBDAABCAABcABCCADCAAfBcACBcAhCBHAABbCBAYBhVAJBVAJBSAMBRAjNBiIAhWBhSAMB",
   "hSAMBhDCDAHDJAFDJBbACCEAABWAnZBhJAACBACBBAPBCAhWCDBcAJBAAHBVCKAeBRCDAhJBUAaBWAICCBhUCOAeDJCA",
   "BBCBBAAICDBhMCKABDAADCAAJDAABBYAGDJAFCCBhDCNAADJADBACBBAAHBhCCAABBAAICCBhPCNBDADCDAACBDJBAAA",
   "BAAhCBRAABYCLAFCABBCAAhdBGAABAAABDAABOAABJAGBhOCLAEDJAFCDAABHABBBABBVAABGAABBAABEAACBBACGABC",
   "BABCCABBAAFCAAEBECBABCGACCEAKBJAABAABBAAABhFAABACIAACAABCAAACDAACEBACABAAMCBAcBhUCRBDAEDJADC",
   "ABCAdBhPCTBBAABAAHDJAlFBhOCGABCIAWBDCBAhBBhPCQACBAAKDJAhFBhKCMBAAGDJAFDTAhYCOADDJAmFBhLCOAjE",
   "BhfDJAUBHABBAABBHAABBAABXCFAACBABCDBACABACBALDJAiFBHABBhGCGABCGBAAABACAAaBACJBhHCGBACDAHCAAH",
   "BACKBhNCPACBAARBiIAmGBhAAODJAFBIAABhECHAACHBAAODJAXBdABCVAACNAiIBGAABBAABhFCFACCAAACBAACGBAC",
   "AAHDJAFBFAABBAABfCEAACBAACEBAAGDJApVBSCDAICBBACABMAABhBCGACCEAMDJCAAiUBAAiOB8ZAjFBjOAQBmDAiy",
   "LBjAAOBhhPGPCABFCOAJBj8aAEByGAm1YBdCRDJAh2FBxYAGBeAADJAFBiOAADJAFBdABCEAKBhPCGAIBDALDJAIBUAE",
   "BSAtPBhMACDJAmFBhfAjfBiKADCABAChWAGCDBMAhfBBAABACAAKCBAv_dEDAAEGAAEBAAEAAoeECAhREAANEDAi0XBj",
   "KAEBMACBIAGBJACCBAAGDAkiLDJAwFChNABCWAwdCEACCFGHCHABCGAdCDAkTCCAtaBiUAABiGAABBABBAABBBABBDAA",
   "BLAABAAABGAABiAAABDABBHAABGAABbAABDAABEAABAACBGAABqTABBYAABYAABeAABYAABeAABYAABeAABYAABeAABY",
   "AABHABDhRAvfChWADChRAHCAANCAAVCEAACOAhiPBeAFBFAmUCGAACQABCGAACBAACEAEBhdAhACAAjPBhMACCGBGABD",
   "JADBAAqABdCAAQBhLCDDJAuVBbCDDJAmVBdCBBADJAvEBGAABDAABBAABOAABmEAKCGAhIBiDCGBAADDJAhlFBDAABaA",
   "ABBAABAABBAAABJAABDAABAAABAAFBAADBAAABAAABAAABCAABBAABAABBAAABAAABAAABAAABAAABBAABAABBDAABGA",
   "ABDAABDAABAAABJAABQAEBCAABEAABQAzTBZAFBZAFBZAibQZAvaCEAh_PDJA4hgGGAAdCifAjfCnPAl_wP"]

def word : Breaks :=
  ⟨wordNames, wordPacked⟩

/-- Parts of sentences. -/
def sentenceNames : List (List String) :=
  [["lo", "lower"],
   ["up", "upper"],
   ["le", "oletter"],
   ["ex", "extend"],
   ["st", "sterm"],
   ["nu", "numeric"],
   ["cl", "close"],
   ["sc", "scontinue"],
   ["fo", "format"],
   ["sp"],
   ["at", "aterm"],
   ["se", "sep"],
   ["cr"],
   ["lf"]]

def sentencePacked : List String :=
  ["AIKAOAKBNAARKAFAHAADHCABIBLAAAGJIBACFAAACZHAAAHAACBZHAAAHAAGMAAZKAAIBAHAAAJAAGBAADBAHAADCWAA",
   "CGBXAABHCABACABACABACABACABACABACABACABACABACABACABACABACABACABACABACABACABACABACABACABACABA",
   "CABACABACABACABACABACABACABBCABACABACABACABACABACABACABACABBCABACABACABACABACABACABACABACABA",
   "CABACABACABACABACABACABACABACABACABACABACABACABACABACABACABACBBACABACABCCBBACABACBBACCBBCDBA",
   "CBBACCBCCBBACBBACABACABACBBACABBCABACBBACCBACABACBBBDACABCDDCBBACBBACBBACABACABACABACABACABA",
   "CABACABACABBCABACABACABACABACABACABACABACABACABBCBBACABACCBACABACABACABACABACABACABACABACABA",
   "CABACABACABACABACABACABACABACABACABACABACABACABACABACABACABACABACABACABACABACABACABGCBBACBBB",
   "CABACDBACABACABACABACABiEDABhDDGBBADDLANBEAGDAAADAAQEjPCABACABADAAACABAABBDIACAAFCAAACCAACAA",
   "ACBBACQAACIBhCCABBCCBCCABACABACABACABACABACABACABACABACABACABACABACABECABAAACABACBBBChSBhPCA",
   "BACABACABACABACABACABACABACABACABACABACABACABACABACABACABACABACABAAAEGCABACABACABACABACABACA",
   "BACABACABACABACABACABACABACABACABACABACABACABACABACABACABACABACABACABACABACABACABACABACBBACA",
   "BACABACABACABACABACABBCABACABACABACABACABACABACABACABACABACABACABACABACABACABACABACABACABACA",
   "BACABACABACABACABACABACABACABACABACABACABACABACABACABACABACABACABACABACABACABACABACABACABACA",
   "BACABACABACABACABACABACABACABAAAChFABDAACIAABBhIFAAGEhMAAEAAAEBAAEBAAEAAHDaADDEALGFAFIBABEKA",
   "AJAFCDhKEUGJAAGBAADBEADjCFADAEGGAAAEFDBEBAAEDDBGJDCABDAFCALJADAEADdEaABDiYEKDAANGJDhAEIDBABI",
   "AFADAABEAABDVEDDAEIDAECDAEEAIFAAAFAACFBAADYECADDKAEDXAADFAAGBAEEIDhJEXGAEhADhVECDAERDAEGDJEB",
   "FBGJAADPECAADHABDBABDVAADGAADAACDDABEADAEGABEBABECDAAHEAADDBAADCEBABGJDBAJDAAAEAABECAADFADDB",
   "ABDVAADGAADBAADBAADBABEAAAEEADEBABECACEAAGDDAADAAGGJEBDCEAAKECAADIAADCAADVAADGAADBAADEABEADA",
   "EHAAECAAECABDAAODBEBABGJAIDAEFAAECAADHABDBABDVAADGAADBAADEABEADAEGABEBABECAGECADDBAADCEBABGJ",
   "AADAAPEADAAADFACDCAADDACDBAADAAADBACDBACDCACDLADEEACECAAEDABDAAFEAANGJAPEEDHAADCAADWAADPABEA",
   "DAEGAAECAAEDAGEBAADCABDAABDBEBABGJAPDAECAADHAADCAADWAADJAADEABEADAEGAAECAAEDAGEBAFDBAADBEBAB",
   "GJAADBEAALEDDIAADCAADhIEBDAEGAAECAAEDDAAEDCEAAGDCEBABGJAJDFAAECAADRACDXAADIAADAABDGACEAADEFA",
   "AEAAAEHAFGJABEBAMDhPEADBEGAEDGEHAAGJAhGDBAADAAADEAADXAADAAADJEADBEIDAABDEAADAAAEGAAGJABDDAfD",
   "AAWEBAFGJAKEAAAEAAAEAHDEBDHAADhDADETAAEBDEEKAAEhDAIEAAhYDhKETDAGJFBADDFEDDDECDAECDBEGDCEDDME",
   "LDAEAGJEDABChFAACAAECAABDhKAABADqLAADDABDGAADAAADDABDhIAADDABDhAAADDABDGAADAAADDABDOAADhYAAD",
   "DABDiCABECABFAADFBAWDPAPCiVABBFACDzLAAFADQKADZHBACDiKACDKAGDREDAIDSECFBAIDREBALDMAADCAAEBALD",
   "hTEfFBAADAADDAEAABGJAXIAFAADIAFAAAECJAEAGJAFDiYAGDEEBDhBEADAAEDiFAJDeAAELADELAHFBGJDdABDEAKD",
   "hLADDZAFGJAhFDWEEADDhUEJAAEcABEAGJAFGJAMDAFDADEeAhQEEDhOEQDHAAFBGJFBABFBAKEIAIFCECDdEMDBGJDh",
   "LENALDhDETACFBACGJACDCGJDhDFBBICABAAEDhKABDCAPECAAEUDDEADFEADBECDAAEBlfEhfCABACABACABACABACA",
   "BACABACABACABACABACABACABACABACABACABACABACABACABACABACABACABACABACABACABACABACABACABACABACA",
   "BACABACABACABACABACABACABACABACABACABACABACABACABACABACABACABACABACABACABACABACABACABACABACA",
   "BACABACABACABACABACABACABACABACABACABACABACABACABACABACABACABACABACABACABACABACABACABACABACA",
   "BACABICABACABACABACABACABACABACABACABACABACABACABACABACABACABACABACABACABACABACABACABACABACA",
   "BACABACABACABACABACABACABACABACABACABACABACABACABACABACABACABACABACABACABACABACABACABACABACA",
   "BACABACABACABACABICHBFABCFABBHCHBHCHBFABCFABBHAACAAACAAACAAACABHCHBNABBHCHBHCHBHCHBEAABBCEAA",
   "BAACBCAABBCEACBDABBBCDADBHCEAEBCAABBCEACKKJAEBJBACIBACHHADLAACMBJEKAAIHBAAFBAGHBFCAUKAJEAAJJ",
   "AABAAKHBBAAMHBAABMAhSEhAAQCAADCAABBACCBBCCBAAACAACCEAFCAAACAAACAAACDAABACDBADDBAABBBCBAECABD",
   "ADBAAQCPBPDCCABADDAreHDAcHBAsKCZBZAzQHFAGHNAiOHBAeHJAsSHVAheHDAfHBAwBChPBhPCABACCBBCABACABAC",
   "ABACDBACABBCABHCCBACABACABACABACABACABACABACABACABACABACABACABACABACABACABACABACABACABACABAC",
   "ABACABACABACABACABACABACABACABACABACABACABACABACABACABACABACABACABACABACABACABACABACABACABAC",
   "ABACABACABACABACABACABACABACABBAFCABACABAECCABAAEFCADBhFAABAAEBAABDhXAGDAAOEADWAIDGAADGAADGA",
   "ADGAADGAADGAADGAADGAAEfHNANHBABHJADFADAALFAAEHAAPFBHHAtCKAIAFAABDCHJABHHAAHCAADIEFAADEABDEAD",
   "DiVABEBABDCAADiZAADDAEDhKAADidAQDfAhPDPAvfDmtfAhfD10MAiCDhNAAFADoMAAFBDPGJDBATCABACABACABACA",
   "BACABACABACABACABACABACABACABACABACABACABACABACABACABACABACABACABACABACABACABADAEDAAEJAADACA",
   "BACABACABACABACABACABACABACABACABACABACABACABACABACABCEBDiPEBAAFAACFAAeDIABCABACABACABACABAC",
   "ABACABACABCCABACABACABACABACABACABACABACABACABACABACABACABACABACABACABACABACABACABACABACABAC",
   "ABACABACABACABACABACABACABACABACABACABACABJCABACABACBBACABACABACABACABADAABCABACABADACABACAB",
   "CCABACABACABACABACABACABACABACABACABACABACEBACEBACABACABACABACABACABACABACABACDBACABACBBAABC",
   "ABAAABAAABACABACABACABACAAUBCCABADABCDGEADCEADDEADWEEADEAASDhTABFBAHEBDhRERAHFBGJAFERDFACDAA",
   "ADBEAGJDbEHAAFADWEMALDcACEDDhOENAGFBAEDAGJAFDEEADJGJDEAADhIENAIDCEADHEBABGJACFCDWACDAECDhREA",
   "DAECDBEBDEEBDAEADAAXDCABDKEEFBDCEBAJDFABDFABDFAIDGAADGAABhKAABNAFBiPDhCEHFAEBABGJAFDq9DALDWA",
   "DDhQAooDDrNABDjJAhFBGALBEAEDAEADJAADMAADEAADAAADBAADBAADjLAhADrKHBAPDhfABDhVAhHDLADEPIBFAIBF",
   "BHBAGEPAAIBABHPABHBAGIBLAAAIBFBIAHFADIAALDEAADkGABJAAAFAAFHBABIBLAAAGJIBACFAAACZHAAAHAACBZHA",
   "AAHAAAHBFAHBIAAADhXEBDeACDFABDFABDFABDCAbJCADDLAADZAADSAADBAADOABDNAhBDjaAiEDhUAkHEAAkBDcACD",
   "hQAOEAAeDfAMDdAEDhFEEAEDdABDhDADDHAADEAhJChHBhHDiNABGJAFChDADBhDADDhHAHDhTALCKAACOAACGAACBAA",
   "BKAABOAABGAABBACDhTALDpWAIDVAJDHAXBADBBCAABhJAABIAiEDFABDAAADhLAADBACDAABDWAJDWAIDeAiADSAADB",
   "AJDVAJDZAiFDhXAFDBAhfDAECAAEBAEEDDDAADCAADcABECADEAAVFBAHDcACDcAhCDHAADbEBAYDhVAJDVAJDSAMDRA",
   "jNDiIAhWChSAMBhSAMDhDEDAHGJAFGJDFCVACEEAADABVAnZDhJAAEBACDBAPDCAhWEDDcAJDAAHDVEKADFEAVDREDFD",
   "AhFDUAaDWAIECDhUEOFBAcGJEADBEBDAAIEDDhMEKABGAFDEAAJGAABDYAGGJAFECDhDENAAGJAAFCDAEBDAAHDhCEAA",
   "BDAAIECDhPENDDFBABEDFAEBGJDAAADAAAFBAfDRAADYELFBAAFBAAEADBEAAhdDGAADAAADDAADOAADJFAAFDhOELAE",
   "GJAFEDAADHABDBABDVAADGAADBAADEAAEBDAEGABEBABECABDAAFEAAEDEEBABEGACEEAKDJAADAABDAAADhFAADAEIA",
   "AEAABEAAAEDAAEEDAEADAFBAKEBAcDhUERDDFBACGJADEADCAdDhPETDBAADAAHGJAlFDhOEGABEIAAFBAEFODDEBAhB",
   "DhPEQFBAADAAKGJAhFDhKEMDAAGGJAFGTAbDaABEOADGJABFCAADGAlYDhLEOAjECfBfGJAUDHABDAABDHAADBAADXEF",
   "AAEBABEDDAEADAEBFAAAFAAIGJAiFDHABDhGEGABEGDAAADAEAAaDAEJDhHEGDAEDACFBACEAAHDAEKDhNEPAAFBDAAR",
   "DiIAmGDhAAOGJAFDIAADhEEHAAEHDAFBAMGJAXDdABEVAAENAiIDGAADBAADhFEFACEAAAEBAAEGDAEAAHGJAFDFAADB",
   "AADfEEAAEBAAEEDAAGGJApVDSEDFBAGEBDAEADMAADhBEGACEEFBAKGJEAAiUDAAiOD8ZAjFDjOAQDmDAiyLDjAAODhh",
   "PJPEADFEOAJDj8aAEDyGAm1YDdERGJAh2FDxYAGDeAAGJADFBDiOAAGJAFDdABEEFAAJDhPEGFBAGDDFAAKGJAIDUAED",
   "SAtPDhMAAFBGJAmFCfBfAXFAAjGDiKADEADAEhWAGEDDMAhfDBAADAEAAKEBANDl_XAHDhmVAhIDJAo3GDDAADGAADBA",
   "ADpCAODAAcDCABDAANDDAHDsLAioDDjKAEDMACDIAGDJACEBFAJDAkiLGJAwFEhNABEWAwdEEACEFJHEHABEGAdEDAkT",
   "ECAtaCZBZCZBGAABRCZBZCAAACBABCAABCBABCDAACHBDAABAAABGAABKCZBZCBAACDABCHAACGAABZCBAACDAACEAAC",
   "AACCGAABZCZBZCZBZCZBZCZBZCZBZCZBbABCYAABYAABFCYAABYAABFCYAABYAABFCYAABYAABFCYAABYAABFCABAABG",
   "hRAvfEhWADEhRAHEAANEAACFAAREEAAEOAhiPBJDABTAFBFAmUEGAAEQABEGAAEBAAEEAEBhdAhAEAAjPDhMACEGDGAB",
   "GJADDAAqADdEAAQDhLEDGJAuVDbEDGJAmVDdEBDAGJAvEDGAADDAADBAADOAADmEAKEGAhIChBBhBEGDAADGJAhlFDDA",
   "ADaAADBAADAABDAAADJAADDAADAAADAAFDAADDAAADAAADAAADCAADBAADAABDAAADAAADAAADAAADAAADBAADAABDDA",
   "ADGAADDAADDAADAAADJAADQAEDCAADEAADQAzTCZAFCZAFCZAhnLHCAhrWGJAhgFDhp2fAfDkhZAFDmdABDl0BANDnpQ",
   "AODzNAitBDwdAhvBDk6KAEDkifA13iQJAAdEifAjfEnPAl_wP"]

def sentence : Breaks :=
  ⟨sentenceNames, sentencePacked⟩

end Breaks

end Wayfarer.Unicode
