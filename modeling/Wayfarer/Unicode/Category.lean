import Wayfarer.Unicode.Packed

/-!
The property General_Category of Unicode 16: for each code point one of thirty categories, and the
groups of categories that have names of their own.
-/
namespace Wayfarer.Unicode.Category

/-- The categories by their short names, in the order of their labels in `packed`. -/
def codes : List String :=
  ["Cc", "Cf", "Cn", "Co", "Cs", "Ll", "Lm", "Lo", "Lt", "Lu", "Mc", "Me", "Mn", "Nd", "Nl",
   "No", "Pc", "Pd", "Pe", "Pf", "Pi", "Po", "Ps", "Sc", "Sk", "Sm", "So", "Zl", "Zp", "Zs"]

def packed : List String :=
  ["AfdAVCXAVCWASAVAZAVARAVBNJVBZCVBJZWAVASAYAQAYAFZWAZASAZAAhAdAVAXDaAVAYAaAHAUAZABAaAYAaAZAPBY",
   "AFAVBYAPAHATAPCVAJWZAJGFXZAFHJAFAJAFAJAFAJAFAJAFAJAFAJAFAJAFAJAFAJAFAJAFAJAFAJAFAJAFAJAFAJAF",
   "AJAFAJAFAJAFAJAFAJAFAJAFAJAFAJAFAJAFAJAFAJAFAJAFBJAFAJAFAJAFAJAFAJAFAJAFAJAFAJAFBJAFAJAFAJAF",
   "AJAFAJAFAJAFAJAFAJAFAJAFAJAFAJAFAJAFAJAFAJAFAJAFAJAFAJAFAJAFAJAFAJAFAJAFAJAFAJAFAJBFAJAFAJAF",
   "CJBFAJAFAJBFAJCFBJDFAJBFAJCFCJBFAJBFAJAFAJAFAJBFAJAFBJAFAJBFAJCFAJAFAJBFBHAJAFCHDJAIAFAJAIAF",
   "AJAIAFAJAFAJAFAJAFAJAFAJAFAJAFAJAFAJAFBJAFAJAFAJAFAJAFAJAFAJAFAJAFAJAFAJAFBJAIAFAJAFAJCFAJAF",
   "AJAFAJAFAJAFAJAFAJAFAJAFAJAFAJAFAJAFAJAFAJAFAJAFAJAFAJAFAJAFAJAFAJAFAJAFAJAFAJAFAJAFAJAFAJAF",
   "AJAFAJAFAJAFAJAFAJAFGJBFAJBFBJAFAJDFAJAFAJAFAJAFAJAFiEHAFaGRYDGLYNGEYGGAYAGAYQMjPJAFAJAFAGAY",
   "AJAFACBGAFCVAJACDYBJAVAJCCAJACAJBFAJQCAJIFhCJAFBJCFCJAFAJAFAJAFAJAFAJAFAJAFAJAFAJAFAJAFAJAFA",
   "JAFAJAFEJAFAZAJAFAJBFBJhSFhPJAFAJAFAJAFAJAFAJAFAJAFAJAFAJAFAJAFAJAFAJAFAJAFAJAFAJAFAJAFAJAFA",
   "JAFAaAMELBJAFAJAFAJAFAJAFAJAFAJAFAJAFAJAFAJAFAJAFAJAFAJAFAJAFAJAFAJAFAJAFAJAFAJAFAJAFAJAFAJA",
   "FAJAFAJAFAJAFAJAFAJAFAJAFAJBFAJAFAJAFAJAFAJAFAJAFAJAFBJAFAJAFAJAFAJAFAJAFAJAFAJAFAJAFAJAFAJA",
   "FAJAFAJAFAJAFAJAFAJAFAJAFAJAFAJAFAJAFAJAFAJAFAJAFAJAFAJAFAJAFAJAFAJAFAJAFAJAFAJAFAJAFAJAFAJA",
   "FAJAFAJAFAJAFAJAFAJAFAJAFAJAFAJAFAJAFAJAFAJAFAJAFAJAFAJAFAJAFACAJhFCBGAVFFhIVARACBaBXACAMhMR",
   "AMAVAMBVAMBVAMACHHaCDHDVBCKBFZCVBXAVBaBMKVABAVCHfGAHJMUNJVDHBMAHjCVAHAMGBAaAMFGBMBaAMDHBNJHC",
   "aBHAVNCABAHAMAHdMaCBHiYMKHACNNJHhAMIGBaAVCGACBMAXBHVMDGAMIGAMCGAMECBVOCAHYMCCBVACAHKCEHXYAHF",
   "CABBCEMIHhIGAMXBAMfKAHhVMAKAMAHAKCMHKDMAKBHAMGHJMBVBNJVAGAHOMAKBCAHHCBHBCBHVCAHGCAHACCHDCBMA",
   "HAKCMDCBKBCBKBMAHACHKACDHBCAHCMBCBNJHBXBPFaAXAHAVAMACBMBKACAHFCDHBCBHVCAHGCAHBCAHBCAHBCBMACA",
   "KCMBCDMBCBMCCCMACGHDCAHACGNJMBHCMAVACJMBKACAHICAHCCAHVCAHGCAHBCAHECBMAHAKCMECAMBKACAKBMACBHA",
   "COHBMBCBNJVAXACGHAMFCAMAKBCAHHCBHBCBHVCAHGCAHBCAHECBMAHAKAMAKAMDCBKBCBKBMACGMBKACDHBCAHCMBCB",
   "NJaAHAPFCJMAHACAHFCCHCCAHDCCHBCAHACAHBCCHBCCHCCCHLCDKBMAKBCCKCCAKCMACBHACFKACNNJPCaFXAaACEMA",
   "KCMAHHCAHCCAHWCAHPCBMAHAMCKDCAMCCAMDCGMBCAHCCBHACBHBMBCBNJCGVAPGaAHAMAKBVAHHCAHCCAHWCAHJCAHE",
   "CBMAHAKAMAKECAMAKBCAKBMBCGKBCFHBCAHBMBCBNJCAHBKACLMBKBHICAHCCAHhIMBHAKCMDCAKCCAKCMAHAaACDHCK",
   "APGHCMBCBNJPIaAHFCAMAKBCAHRCCHXCAHICAHACBHGCCMACDKCMCCAMACAKHCFNJCBKBVACLHhPMAHBMGCDXAHFGAMH",
   "VANJVBChEHBCAHACAHECAHXCAHACAHJMAHBMIHACBHECAGACAMGCANJCBHDCfHAaCVOaAVAaCMBaFNJPJaAMAaAMAaAM",
   "AWASAWASAKBHHCAHhDCDMNKAMEVAMBHEMKCAMhDCAaHMAaFCAaBVEaDVBChEHhKKBMDKAMFKAMBKBMBHANJVFHFKBMBH",
   "DMCHAKCHBKGHCMDHMMAKBMBKFMAHAKANJKCMAaBJhFCAJACEJACBFhKVAGAFCHqICAHDCBHGCAHACAHDCBHhICAHDCBH",
   "hACAHDCBHGCAHACAHDCBHOCAHhYCAHDCBHiCCBMCVIPTCCHPaJCFJiVCBFFCBRAHzLaAVAHQdAHZWASACCHiKVCOCHHC",
   "GHRMCKACIHSMBKAVBCIHRMBCLHMCAHCCAMBCLHhTMBKAMGKHMAKBMKVCGAVCXAHAMACBNJCFPJCFVFRAVDMCBAMANJCF",
   "HhCGAHhUCGHEMBHhBMAHACEHiFCJHeCAMCKDMBKCCDKBMAKFMCCDaACCVBNJHdCBHECKHhLCDHZCFNJPACCahBHWMBKB",
   "MACBVBHhUKAMAKAMGCAMAKAMAKBMHKFMJCBMANJCFNJCFVGGAVFCBMNLAMPChQMDKAHhOMAKAMEKAMAKEMAKBHHCAVBN",
   "JVGaJMIaIVCMBKAHdKAMDKBMBKAMCHBNJHhLMAKAMBKCMAKAMCKBCHVDHhDKHMHKBMBCCVENJCCHCNJHdGFVBFIJAFAC",
   "EJhKCBJCVHCHMCVAMMKAMGHDMAHFMAHBKAMBHACEFhLGheFMGAFhBGhEMhfJAFAJAFAJAFAJAFAJAFAJAFAJAFAJAFAJ",
   "AFAJAFAJAFAJAFAJAFAJAFAJAFAJAFAJAFAJAFAJAFAJAFAJAFAJAFAJAFAJAFAJAFAJAFAJAFAJAFAJAFAJAFAJAFAJ",
   "AFAJAFAJAFAJAFAJAFAJAFAJAFAJAFAJAFAJAFAJAFAJAFAJAFAJAFAJAFAJAFAJAFAJAFAJAFAJAFAJAFAJAFAJAFAJ",
   "AFAJAFAJAFAJAFAJAFAJAFAJAFAJAFAJAFAJAFAJAFAJAFAJAFAJAFAJAFAJAFAJAFAJAFAJAFAJAFAJAFIJAFAJAFAJ",
   "AFAJAFAJAFAJAFAJAFAJAFAJAFAJAFAJAFAJAFAJAFAJAFAJAFAJAFAJAFAJAFAJAFAJAFAJAFAJAFAJAFAJAFAJAFAJ",
   "AFAJAFAJAFAJAFAJAFAJAFAJAFAJAFAJAFAJAFAJAFAJAFAJAFAJAFAJAFAJAFAJAFAJAFAJAFAJAFAJAFAJAFAJAFAJ",
   "AFIJHFFCBJFCBFHJHFHJHFFCBJFCBFHCAJACAJACAJACAJAFHJHFNCBFHIHFHIHFHIHFECAFBJDIAYAFAYCFCCAFBJDI",
   "AYCFDCBFBJDCAYCFHJEYCCBFCCAFBJDIAYBCAdKBERFVBUATAWAUBTAWAUAVHbAcABEdAVIUATAVDQBVCZAWASAVKZAV",
   "AQAVJdABECABJPAGACBPFZCWASAGAPJZCWASACAGMCCXhACOMMLDMALCMLCOaBJAaDJAaBFAJCFBJCFAaAJAaBZAJEaF",
   "JAaAJAaAJAaAJDaAFAJDFAHDFAaBFBJBZEJAFDaAZAaBFAaAPPOhCJAFAODPAaBCDZEaEZBaDZAaBZAaBZAaGZAaeZBa",
   "BZAaAZAaeZoLaHWASAWASAaTZBaGWASAaiQZAadZYahHZFaiHCVaKCUPhbaiNPValWZAaIZAahVZHajOZAanXWASAWAS",
   "AWASAWASAWASAWASAWASAPdahLZEWASAZeWASAWASAWASAWASAWASAZPanfZkCWASAWASAWASAWASAWASAWASAWASAWA",
   "SAWASAWASAWASAZheWASAWASAZfWASAZoBahPZUaBZFahGCBafCAajIJhPFhPJAFAJCFBJAFAJAFAJAFAJDFAJAFBJAF",
   "FGBJCFAJAFAJAFAJAFAJAFAJAFAJAFAJAFAJAFAJAFAJAFAJAFAJAFAJAFAJAFAJAFAJAFAJAFAJAFAJAFAJAFAJAFAJ",
   "AFAJAFAJAFAJAFAJAFAJAFAJAFAJAFAJAFAJAFAJAFAJAFAJAFAJAFAJAFAJAFAJAFAJAFAJAFAJAFAJAFAJAFAJAFAJ",
   "AFAJAFAJAFAJAFAJAFBaFJAFAJAFAMCJAFACEVDPAVBFhFCAFACEFACBHhXCGGAVACNMAHWCIHGCAHGCAHGCAHGCAHGC",
   "AHGCAHGCAHGCAMfVBUATAUATAVCUATAVAUATAVIRAVBRAVAUATAVBUATAWASAWASAWASAWASAVEGAVJRBVDRAVAWAVMa",
   "BVCWASAWASAWASAWASARAChBaZCAaiYCLamVCZaPdAVCaAGAHAOAWASAWASAWASAWASAWASAaBWASAWASAWASAWASARA",
   "WASBaAOIMDKBRAGEaBOCGAHAVAaBCAHiVCBMBYBGBHARAHiZVAGCHACEHhKCAHidCAaBPDaJHfahFCIaAHPaeCAPJadP",
   "HaAPOafPJahGPOapfHmtfahfH0wUGAHhjWCCahWCIHhHGFVBHoLGAVCHPNJHBCTJAFAJAFAJAFAJAFAJAFAJAFAJAFAJ",
   "AFAJAFAJAFAJAFAJAFAJAFAJAFAJAFAJAFAJAFAJAFAJAFAJAFAJAFAJAFAJAFAHAMALCVAMJVAGAJAFAJAFAJAFAJAF",
   "AJAFAJAFAJAFAJAFAJAFAJAFAJAFAJAFAJAFAJAFAGBMBHiFOJMBVFCHYWGIYBJAFAJAFAJAFAJAFAJAFAJAFAJAFCJA",
   "FAJAFAJAFAJAFAJAFAJAFAJAFAJAFAJAFAJAFAJAFAJAFAJAFAJAFAJAFAJAFAJAFAJAFAJAFAJAFAJAFAJAFAJAFAJA",
   "FAJAFAJAFAJAFAJAFAJAFAJAFAJAFAGAFHJAFAJAFAJBFAJAFAJAFAJAFAJAFAGAYBJAFAJAFAHAJAFAJAFCJAFAJAFA",
   "JAFAJAFAJAFAJAFAJAFAJAFAJAFAJAFAJEFAJEFAJAFAJAFAJAFAJAFAJAFAJAFAJAFAJDFAJAFAJBFACBJAFACAFACA",
   "FAJAFAJAFAJAFAJACUGCJAFAHAGBFAHGMAHCMAHDMAHWKBMBKAaDMACCPFaBXAaACFHhTVDCHKBHhRKPMBCHVBNJCFMR",
   "HFVCHAVAHBMANJHbMHVBHWMKKBCKVAHcCCMCKAHhOMAKBMDKBMBKCVMCAGANJCDVBHEMAGAHINJHECAHhIMFKBMBKBMB",
   "CIHCMAHHMAKACBNJCBVDHPGAHFaCHAKAMAKAHhRMAHAMCHBMBHEMBHAMAHACXHBGAVBHKKAMBKBVBHAGBKAMACJHFCBH",
   "FCBHFCIHGCAHGCAFhKYAGDFIGAYBCDFiPHhCKBMAKBMAKBVAKAMACBNJCFHq9DCLHWCDHhQCDEh_fDmnfHrNCBHjJChF",
   "FGCLFECEHAMAHJZAHMCAHECAHACAHBCAHBCAHjLYQCPHrKSAWAaPHhfCBHhVCGaACfHLXAaCMPVGWASAVACFMPVARBQB",
   "WASAWASAWASAWASAWASAWASAWASAWASAVBWASAVDQCVCCAVDRAWASAWASAWASAVCZARAZCCAVAXAVBCDHECAHkGCBBAC",
   "AVCXAVCWASAVAZAVARAVBNJVBZCVBJZWAVASAYAQAYAFZWAZASAZAWASAVAWASAVBHJGAHhMGBHeCCHFCBHFCBHFCBHC",
   "CCXBZAYAaAXBCAaAZDaBCJBCaBCBHLCAHZCAHSCAHBCAHOCBHNChBHjaCEVCCDPhMCCaIOhUPDaQPBaCCAaMCCaAChOa",
   "hMMACkBHcCCHhQCOMAPaCDHfPDCIHTOAHHOACEHhFMECEHdCAVAHhDCDHHVAOEChJJhHFhHHiNCBNJCFJhDCDFhDCDHh",
   "HCHHhTCKVAJKCAJOCAJGCAJBCAFKCAFOCAFGCAFBCCHhTCLHpWCIHVCJHHCXGFCAGhJCAGICiEHFCBHACAHhLCAHBCCH",
   "ACBHWCAVAPHHWaBPGHeCHPIChPHSCAHBCEPEHVPFCCVAHZCEVAChfHhXCDPBHBPPCBPhNHAMCCAMBCEMDHDCAHCCAHcC",
   "BMCCDMAPICGVICGHcPBVAHcPCCfHHaAHbMBCDPEVGCIHhVCCVGHVCBPHHSCEPHHRCGVDCLPGCiPHiIChWJhSCMFhSCGP",
   "FHhDMDCHNJCFNJHDGAHAJVCCMERAGAFVCHZBCmPPeCAHhJCAMBRACBHBCPHCChWMDHcPJHACHHVMKPDVECVHRMDVDChF",
   "HUPGCTHWCIKAMAKAHhUMOVGCDPTNJMAHBMBHACIMCKAHhMKCMDKBMBVBBAVDMACJBACBHYCGNJCFMCHhDMEKAMHCANJV",
   "DHAKBHACHHhCMAVBHACIMBKAHhPKCMIKBHDVDMDVAKAMANJHAVAHAVCCAPTCKHRCAHYKCMCKBMAKAMBVFMAHBMAChdHG",
   "CAHACAHDCAHOCAHJVACFHhOMAKCMHCENJCFMBKBCAHHCBHBCBHVCAHGCAHBCAHECAMBHAKBMAKDCBKBCBKCCBHACFKAC",
   "EHEKBCBMGCCMECKHJCAHACBHACAHhFCAHAKCMFCAKACBKACAKDCAKBMAKAMAHAMAHAVBCAVBCHMBCcHhUKCMHKBMCKAM",
   "AHDVENJVBCAVAMAHCCdHhPKCMFKAMAKDMBKAMBHBVAHACHNJClFHhOKCMDCBKDMBKAMBVWHDMBChBHhPKCMHKBMAKAMB",
   "VCHACKNJCFVMCSHhKMAKAMAKBMFKAMAHAVACFNJCFNTCbHaCBMAKAMAKBMDKAMECDNJPBVCaAHGClYHhLKCMIKAMBVAC",
   "jDJfFfNJPICLHHCBHACBHHCAHBCAHXKFCAKBCBMBKAMAHAKAHAKAMAVCCINJCiFHHCBHhGKCMDCBMBKDMAHAVAHAKACa",
   "HAMJHhHMFKAHAMDVHMACHHAMFKBMCHhNMMKAMBVCHAVECMHiICGVJClVHhAVACNNJCFHICAHhEKAMGCAMFKAMAHAVECJ",
   "NJPSCCVBHdCBMVCAKAMGKAMBKAMBCiIHGCAHBCAHhFMFCCMACAMBCAMGHAMACHNJCFHFCAHBCAHfKECAMBCAKBMAKAMA",
   "HACGNJCpVHSMBKBVBCGMBHAKAHMCAHhBKBMECCKBMAKAMAVMNJMACiUHACOPUaHXDaQCMVAH8ZCjFOjOCAVECKHmDCiy",
   "LHjAVBCMHhhPBPMAHFMOCJHj8aCEHyGCm1YHdMLKCMCNJCh2FHxYCGHeCANJCDVBHiOCANJCFHdCBMEVACJHhPMGVEaD",
   "GDVAaACJNJCAPGCAHUCEHSCtPGCHhHGBVCNJCmFJfFfPWVDCjEHiKCDMAHAKhWCGMDGMChfGBVAGAMACKKBCNHl_XCHH",
   "hmVChIHJCo3GGDCAGGCAGBCAHpCCOHACcHCCBHACNHDCHHsLCioDHjKCEHMCCHICGHJCBaAMBVABDCj6banPNJCFatTC",
   "iLMhNCBMWCIajTChbanVCJahGCBahbKBMCaCKFBHMHaBMGadMDahcCUaiBMCaACjZPTCLPTCLaiWCIPYCkGJZFZJZFGC",
   "AFRJZFZJACAJBCBJACBJBCBJDCAJHFDCAFACAFGCAFKJZFZJBCAJDCBJHCAJGCAFZJBCAJDCAJECAJACCJGCAFZJZFZJ",
   "ZFZJZFZJZFZJZFZJZFbCBJYZAFYZAFFJYZAFYZAFFJYZAFYZAFFJYZAFYZAFFJYZAFYZAFFJAFACBNhRavfMhWaDMhRa",
   "HMAaNMAaBVECOMECAMOChiPFJHAFTCFFFCmUMGCAMQCBMGCAMBCAMECEGhdChAMACjPHhMCCMGGGCBNJCDHAaACpfHdM",
   "ACQHhLMDNJCEXACuPHaGAMDNJCmVHdMBHANJCDVACufHGCAHDCAHBCAHOCAHmECBPIMGChIJhBFhBMGGACDNJCDVBC4Q",
   "PhaaAPCXAPDCiLPhMaAPOCmBHDCAHaCAHBCAHACBHACAHJCAHDCAHACAHACFHACDHACAHACAHACAHCCAHBCAHACBHACA",
   "HACAHACAHACAHACAHBCAHACBHDCAHGCAHDCAHDCAHACAHJCAHQCEHCCAHECAHQChTZBCoNahLCDajDCLaOCBaOCAaOCA",
   "ahECJPMalAChXacCMahLCDaICGaBCNaFCkZanaYEa2XCDaQCCaMCCajWCDaieCFaLCDaACOaLCDahXCHaJCFahHCHadC",
   "BaLCDaBChdaqTCLaNCBaMCCaJCEahXCGaOCBaKCFaICGakSCAaibNJChgFHhp2fCfHkhZCFHmdCBHl0BCNHnpQCOHzNC",
   "itBHwdChvBHk6KCEHkifC13iQBACdBifCjfMnPCh_wPDh__dCBDh__dCB"]

def runs : List (Nat × Nat × Nat) :=
  Packed.runs packed

/-- The code points of the categories with these short names. -/
def ofCodes (names : List String) : CodeSet :=
  CodeSet.unions (names.map fun name => Packed.labelled runs (codes.idxOf name))

/-- A name for one category or for several. -/
structure Named where
  /-- All spellings, in small letters and without separators. -/
  names : List String
  codes : List String

/-- Surrogates alone are left out, since no text holds them. -/
def named : List Named :=
  [⟨["c", "other"], ["Cc", "Cf", "Cn", "Co", "Cs"]⟩,
   ⟨["cc", "control", "cntrl"], ["Cc"]⟩,
   ⟨["cf", "format"], ["Cf"]⟩,
   ⟨["cn", "unassigned"], ["Cn"]⟩,
   ⟨["co", "privateuse"], ["Co"]⟩,
   ⟨["l", "letter"], ["Ll", "Lm", "Lo", "Lt", "Lu"]⟩,
   ⟨["lc", "casedletter"], ["Ll", "Lt", "Lu"]⟩,
   ⟨["ll", "lowercaseletter"], ["Ll"]⟩,
   ⟨["lm", "modifierletter"], ["Lm"]⟩,
   ⟨["lo", "otherletter"], ["Lo"]⟩,
   ⟨["lt", "titlecaseletter"], ["Lt"]⟩,
   ⟨["lu", "uppercaseletter"], ["Lu"]⟩,
   ⟨["m", "mark", "combiningmark"], ["Mc", "Me", "Mn"]⟩,
   ⟨["mc", "spacingmark"], ["Mc"]⟩,
   ⟨["me", "enclosingmark"], ["Me"]⟩,
   ⟨["mn", "nonspacingmark"], ["Mn"]⟩,
   ⟨["n", "number"], ["Nd", "Nl", "No"]⟩,
   ⟨["nd", "decimalnumber", "digit"], ["Nd"]⟩,
   ⟨["nl", "letternumber"], ["Nl"]⟩,
   ⟨["no", "othernumber"], ["No"]⟩,
   ⟨["p", "punctuation", "punct"], ["Pc", "Pd", "Pe", "Pf", "Pi", "Po", "Ps"]⟩,
   ⟨["pc", "connectorpunctuation"], ["Pc"]⟩,
   ⟨["pd", "dashpunctuation"], ["Pd"]⟩,
   ⟨["pe", "closepunctuation"], ["Pe"]⟩,
   ⟨["pf", "finalpunctuation"], ["Pf"]⟩,
   ⟨["pi", "initialpunctuation"], ["Pi"]⟩,
   ⟨["po", "otherpunctuation"], ["Po"]⟩,
   ⟨["ps", "openpunctuation"], ["Ps"]⟩,
   ⟨["s", "symbol"], ["Sc", "Sk", "Sm", "So"]⟩,
   ⟨["sc", "currencysymbol"], ["Sc"]⟩,
   ⟨["sk", "modifiersymbol"], ["Sk"]⟩,
   ⟨["sm", "mathsymbol"], ["Sm"]⟩,
   ⟨["so", "othersymbol"], ["So"]⟩,
   ⟨["z", "separator"], ["Zl", "Zp", "Zs"]⟩,
   ⟨["zl", "lineseparator"], ["Zl"]⟩,
   ⟨["zp", "paragraphseparator"], ["Zp"]⟩,
   ⟨["zs", "spaceseparator"], ["Zs"]⟩]

/-- The category or group with a normalized name; also all code points, those of ASCII, and those
that are assigned. -/
def find? (name : String) : Option CodeSet :=
  match name with
  | "any" => some CodeSet.full
  | "ascii" => some ⟨[(0, 0x7F)]⟩
  | "assigned" => some (ofCodes ["Cn"]).complement
  | _ => (named.find? (·.names.contains name)).map fun c => ofCodes c.codes

end Wayfarer.Unicode.Category
