import Wayfarer.Unicode.Packed

/-!
The properties Script and Script_Extensions of Unicode 16. Scripts are labelled from 1 on in the
order of `table`; 0 stands for code points without a script.
-/
namespace Wayfarer.Unicode.Script

structure Entry where
  /-- All spellings, in small letters and without separators. -/
  names : List String
  /-- Where the code points that the script is used with differ from those that belong to it. -/
  extension : List String

def table : List Entry :=
  [⟨["zyyy", "common"],
    ["lXAwEAKABCBAJABAkaA0XAOADAhAA5DBh8VAhvPCiHBmLBBAhmNANAHDBFBCCA5UAfAKACAjtZAYBKAEABAtMPBCCABJ",
     "BMQFBAEDibBDAiaBkTPhAhFJAhQhHhYhQPLhTAiYYKEjAe84BHpIJnUAlAA07OBoFBoaEKAhNBrACEhMDItBahutEDl1",
     "cRn2eB"]⟩,
   ⟨["arab", "arabic"], ["hwMAOADAhAAKKaAmueAjvRAhz3cBhtAb"]⟩,
   ⟨["latn", "latin"],
    ["lXAwEAKABCBAJABAhGOBBBAMACCHBBBhGAFAEMoVBhmKBh9IAjncAxWAmAAjpGA-nIHxGA"]⟩,
   ⟨["ethi", "ethiopic"], ["4OA"]⟩,
   ⟨["grek", "greek"], ["lXAyIBCABABAKAhOACAhOAmyLB0bA"]⟩,
   ⟨["zinh", "inherited", "qaai"],
    ["4AOBBBAMACCHBBBQACASAFAEMoVBuEKaA3ABk7dCBMBGEAGADBmGBhWABA3VAj5ZDjLBh0yFAkiaA"]⟩,
   ⟨["hani", "han"],
    ["lXAr5YPBCCABJBMKDCAGAEDlbAkUPhAhFJAhQhHhYhQPLhTAiYYKEjAe84BH15dBoaEh0_aRn2eB"]⟩,
   ⟨["taml", "tamil"], ["iqRBRBk7UAhjgYA6wNABAhXB"]⟩,
   ⟨["guru", "gurmukhi"], ["iqRBRBhn2KJ"]⟩,
   ⟨["gran", "grantha"], ["iqRBRB0ANkmcABBeCDB_WAh8yKAjkUBBA"]⟩,
   ⟨["beng", "bengali"], ["1cAh0UBRBk7KABACBBAIAIACAEACChi_ZA"]⟩,
   ⟨["gujr", "gujarati"], ["iqRBRBhn2KJ"]⟩,
   ⟨["hang", "hangul"], ["sgBCEJBMQAGAmDAhzqJBoaE"]⟩,
   ⟨["kana", "katakana"], ["4FAdArmdCEJBMQFBAEBibDDAiaBhzqIBoaEKAhNB"]⟩,
   ⟨["orya", "oriya"], ["iqRBRBk7UAXA"]⟩,
   ⟨["knda", "kannada"], ["iqRBRBk7KABBGAXABAhi5bF"]⟩,
   ⟨["sinh", "sinhala"], ["irEBk8MA"]⟩,
   ⟨["telu", "telugu"], ["iqRBRBk7UAXA"]⟩,
   ⟨["laoo", "lao"], []⟩,
   ⟨["tutg", "tulutigalari"], ["jnGJkgCABAhi5bFlbA"]⟩,
   ⟨["cyrl", "cyrillic"], ["1cAiDCBABABACAFArTBmrRAkiKA"]⟩,
   ⟨["geor", "georgian"], ["lXAhmRAi7RAj6eAjuWA"]⟩,
   ⟨["hebr", "hebrew"], ["4HB"]⟩,
   ⟨["diak", "divesakuru"], []⟩,
   ⟨["khar", "kharoshthi"], []⟩,
   ⟨["vith", "vithkuqi"], []⟩,
   ⟨["linb", "linearb"], ["igoACEhMDI"]⟩,
   ⟨["mlym", "malayalam"], ["iqRBRBk7UAXAhi5dC"]⟩,
   ⟨["gonm", "masaramgondi"], ["irEB"]⟩,
   ⟨["tibt", "tibetan"], ["sgID"]⟩,
   ⟨["cprt", "cypriot"], ["igoACEhMDI"]⟩,
   ⟨["glag", "glagolitic"], ["lXAyLABAreACAoBAi7RAj6eAjvIA-hLA"]⟩,
   ⟨["gong", "gunjalagondi"], ["lXAilMB"]⟩,
   ⟨["hira", "hiragana"], ["sgBCEJBMQFBAEBibDDAiaBhzqIBoaEKAhNB"]⟩,
   ⟨["mong", "mongolian"], ["mgCBBAihJAj-RBFD"]⟩,
   ⟨["deva", "devanagari"], ["1cAh0UBRBk7KhGBB_WAhh5fJ"]⟩,
   ⟨["dupl", "duployan"], ["lXAyPBBAYBq4XAjjzDD"]⟩,
   ⟨["limb", "limbu"], ["irFA"]⟩,
   ⟨["mult", "multani"], ["izGJ"]⟩,
   ⟨["hmng", "pahawhhmong"], []⟩,
   ⟨["lana", "taitham"], []⟩,
   ⟨["armn", "armenian"], ["4IA"]⟩,
   ⟨["bhks", "bhaiksuki"], []⟩,
   ⟨["cham"], []⟩,
   ⟨["xsux", "cuneiform"], []⟩,
   ⟨["khmr", "khmer"], []⟩,
   ⟨["mymr", "myanmar"], ["hqpOA"]⟩,
   ⟨["talu", "newtailue"], []⟩,
   ⟨["hmnp", "nyiakengpuachuehmong"], []⟩,
   ⟨["syrc", "syriac"], ["4DBCBBAVACCHBBA2bAOBCAhAAKKaAl8HABA"]⟩,
   ⟨["tang", "tangut"], ["r_QPvPA"]⟩,
   ⟨["adlm", "adlam"], ["hwfAhAAmwOAjvRA"]⟩,
   ⟨["ahom"], []⟩,
   ⟨["bopo", "bopomofo"], ["2HABCNArpHCEJBMKDCAGAmDAhzqJBoaE"]⟩,
   ⟨["brah", "brahmi"], []⟩,
   ⟨["cans", "canadianaboriginal"], []⟩,
   ⟨["cher", "cherokee"], ["4ACBAGBWBLB"]⟩,
   ⟨["copt", "coptic", "qaac"], ["lXAyIADBBAjMBq1BAh1mIb"]⟩,
   ⟨["gara", "garay"], ["hwMAOADA"]⟩,
   ⟨["hatr", "hatran"], []⟩,
   ⟨["java", "javanese"], ["hquPA"]⟩,
   ⟨["kawi"], []⟩,
   ⟨["kits", "khitansmallscript"], []⟩,
   ⟨["lepc", "lepcha"], []⟩,
   ⟨["lina", "lineara"], ["igoHhM"]⟩,
   ⟨["marc", "marchen"], []⟩,
   ⟨["mtei", "meeteimayek"], []⟩,
   ⟨["merc", "meroiticcursive"], []⟩,
   ⟨["plrd", "miao"], []⟩,
   ⟨["mroo", "mro"], []⟩,
   ⟨["nand", "nandinagari"], ["irEB8AJj_ZAIAHAhi5VF"]⟩,
   ⟨["hung", "oldhungarian"], ["oiaACAjuTAPA"]⟩,
   ⟨["phlp", "psalterpahlavi"], ["hyAA"]⟩,
   ⟨["sgnw", "signwriting"], []⟩,
   ⟨["tagb", "tagbanwa"], ["l5VB"]⟩,
   ⟨["tfng", "tifinagh"], ["4CABACABA"]⟩,
   ⟨["yezi", "yezidi"], ["hwMAOADAiAJ"]⟩,
   ⟨["avst", "avestan"], ["lXArrYB"]⟩,
   ⟨["bali", "balinese"], []⟩,
   ⟨["bamu", "bamum"], []⟩,
   ⟨["bass", "bassavah"], []⟩,
   ⟨["batk", "batak"], []⟩,
   ⟨["bugi", "buginese"], ["hquPA"]⟩,
   ⟨["aghb", "caucasianalbanian"], ["4EAhMAhMA"]⟩,
   ⟨["cakm", "chakma"], ["ivGJhyQJ"]⟩,
   ⟨["egyp", "egyptianhieroglyphs"], []⟩,
   ⟨["rohg", "hanifirohingya"], ["hwMAOADAhAAkTA"]⟩,
   ⟨["armi", "imperialaramaic"], []⟩,
   ⟨["phli", "inscriptionalpahlavi"], []⟩,
   ⟨["prti", "inscriptionalparthian"], []⟩,
   ⟨["kthi", "kaithi"], ["irGJpmBA-veJ"]⟩,
   ⟨["kali", "kayahli"], ["hqpOA"]⟩,
   ⟨["khoj", "khojki"], ["i3GJhnqAJ"]⟩,
   ⟨["sind", "khudawadi"], ["irEBhn2KJ"]⟩,
   ⟨["lisu"], ["1cAQArpcB"]⟩,
   ⟨["lydi", "lydian"], ["lXArrZA"]⟩,
   ⟨["mand", "mandaic"], ["hyAA"]⟩,
   ⟨["mani", "manichaean"], ["hyAA"]⟩,
   ⟨["mend", "mendekikakui"], []⟩,
   ⟨["modi"], ["hqhQJ"]⟩,
   ⟨["nbat", "nabataean"], []⟩,
   ⟨["newa"], []⟩,
   ⟨["nkoo", "nko"], ["hwMAOADAh94eB"]⟩,
   ⟨["nshu", "nushu"], []⟩,
   ⟨["onao", "olonal"], ["irEB"]⟩,
   ⟨["ital", "olditalic"], []⟩,
   ⟨["xpeo", "oldpersian"], []⟩,
   ⟨["osge", "osage"], ["4BACAGAiMA"]⟩,
   ⟨["osma", "osmanya"], []⟩,
   ⟨["phnx", "phoenician"], []⟩,
   ⟨["rjng", "rejang"], []⟩,
   ⟨["runr", "runic"], ["l3LC"]⟩,
   ⟨["samr", "samaritan"], ["rxRA"]⟩,
   ⟨["saur", "saurashtra"], []⟩,
   ⟨["sidd", "siddham"], []⟩,
   ⟨["sora", "sorasompeng"], []⟩,
   ⟨["sund", "sundanese"], []⟩,
   ⟨["sunu", "sunuwar"], ["4ABBAJACAcADA"]⟩,
   ⟨["tglg", "tagalog"], ["l5VB"]⟩,
   ⟨["tale", "taile"], ["4ABFBDAjpTJ"]⟩,
   ⟨["tavt", "taiviet"], []⟩,
   ⟨["takr", "takri"], ["irEBhn2KJ"]⟩,
   ⟨["tnsa", "tangsa"], []⟩,
   ⟨["thai"], ["1cAaAhLAhNA"]⟩,
   ⟨["tirh", "tirhuta"], ["iqRBRBk8MAhi5dJ"]⟩,
   ⟨["ugar", "ugaritic"], []⟩,
   ⟨["wcho", "wancho"], []⟩,
   ⟨["wara", "warangciti"], []⟩,
   ⟨["yiii", "yi"], ["sgBBFJCHmfAhzzFE"]⟩,
   ⟨["hluw", "anatolianhieroglyphs"], []⟩,
   ⟨["brai", "braille"], []⟩,
   ⟨["buhd", "buhid"], ["l5VB"]⟩,
   ⟨["cari", "carian"], ["lXAn9CACAjuTA"]⟩,
   ⟨["chrs", "chorasmian"], []⟩,
   ⟨["cpmn", "cyprominoan"], ["igoAB"]⟩,
   ⟨["dsrt", "deseret"], []⟩,
   ⟨["dogr", "dogra"], ["irELhn2AJ"]⟩,
   ⟨["elba", "elbasan"], ["lXAyNA"]⟩,
   ⟨["elym", "elymaic"], []⟩,
   ⟨["goth", "gothic"], ["lXAyMBCAhIA"]⟩,
   ⟨["gukh", "gurungkhema"], ["irFA"]⟩,
   ⟨["hano", "hanunoo"], ["l5VB"]⟩,
   ⟨["krai", "kiratrai"], []⟩,
   ⟨["lyci", "lycian"], ["oiaA"]⟩,
   ⟨["mahj", "mahajani"], ["lXAilMLhn2AJ"]⟩,
   ⟨["maka", "makasar"], []⟩,
   ⟨["medf", "medefaidrin"], []⟩,
   ⟨["mero", "meroitichieroglyphs"], ["oidA"]⟩,
   ⟨["nagm", "nagmundari"], []⟩,
   ⟨["ogam", "ogham"], []⟩,
   ⟨["olck", "olchiki"], []⟩,
   ⟨["narb", "oldnortharabian"], []⟩,
   ⟨["perm", "oldpermic"], ["lXAyIAFCKArPA"]⟩,
   ⟨["sogo", "oldsogdian"], []⟩,
   ⟨["sarb", "oldsoutharabian"], []⟩,
   ⟨["orkh", "oldturkic"], ["oiaAjuVA"]⟩,
   ⟨["ougr", "olduyghur"], ["hyAAihlRA"]⟩,
   ⟨["palm", "palmyrene"], []⟩,
   ⟨["pauc", "paucinhau"], []⟩,
   ⟨["phag", "phagspa"], ["mgCBBAihJAj-SA"]⟩,
   ⟨["shrd", "sharada"], ["iqRAk8FABACBCAhi6PFCA"]⟩,
   ⟨["shaw", "shavian"], ["lXA"]⟩,
   ⟨["sogd", "sogdian"], ["hyAA"]⟩,
   ⟨["soyo", "soyombo"], []⟩,
   ⟨["sylo", "sylotinagri"], ["irEBkAJ"]⟩,
   ⟨["thaa", "thaana"], ["hwMAOBCAiAJh98IAKA"]⟩,
   ⟨["todr", "todhri"], ["4BACACAJABAiKA"]⟩,
   ⟨["toto"], ["1cA"]⟩,
   ⟨["vaii", "vai"], []⟩,
   ⟨["zanb", "zanabazarsquare"], []⟩]

def packed : List String :=
  ["BiADZBFDZBhODABODABEDWBADeBADuABhGDEBEhWBBTGjPFDBAFCABFDBAFAADFABAFABAFCAAFAAAFTAAFhehaNFPVk",
   "EGBVlIAAhKhFABhKhRABhKCAAXhWAHXaADXFAKCEBACFBACNBACCBACfBACJGKCZGACjLBAChBhSNAAhShbABhSCChPl",
   "GhRANjHhaABjHCjRhNABjROAAjBbABjBAAAhSKAECeAACBAECiKBACchEiQGDhEOBBhEZLDAALHABLBABLVAALGAALAA",
   "CLDABLIABLBABLDAHLAADLBAALEABLYABJCAAJFADJBABJVAAJGAAJBAAJBAAJBABJAAAJEADJBABJCACJAAGJDAAJAA",
   "GJQAJMCAAMIAAMCAAMVAAMGAAMBAAMEABMJAAMCAAMCABMAAOMDABMLAGMGAAPCAAPHABPBABPVAAPGAAPBAAPEABPIA",
   "BPBABPCAGPCADPBAAPEABPRAJIBAAIFACICAAIDACIBAAIAAAIBACIBACICACILADIEACICAAIDABIAAFIAANIUAESMA",
   "ASCAASWAASPABSIAASCAASDAGSBAASCABSAABSDABSJAGSIQMAAQCAAQWAAQJAAQEABQIAAQCAAQDAGQBAFQBAAQDABQ",
   "JAAQCALcMAAcCAAchSAAcCAAcFADcPABcZAARCAARRACRXAARIAARAABRGACRAADRFAARAAARHAFRJABRCALjchZADBA",
   "jcbAhETBAATAAATEAATXAATAAATWABTEAATAAATGAATJABTDAfeiHAAehDADehGAAehDAAeOAAeGBDeBAhEhPkfWhFAA",
   "WAAEWAABWhKBAWDNnfEiIAAEDABEGAAEAAAEDABEhIAAEDABEhAAAEDABEGAAEAAAEDABEOAAEhYAAEDABEiCABEfACE",
   "ZAFhZiVABhZFABhYzfkWcACjQiKBCjQKAGjXVAIjXAkOUBBAIkETALiLMAAiLCAAiLBALhOidABhOJAFhOJAFhDBBBhD",
   "ABAhDTAFhDiYAGhDhKAEhYiFAJhGeAAhGLADhGLADhGAAChGLjYdABjYEAKhQhLADhQZAFhQKAChQBhOfiTbABiTBhJh",
   "eAAhJcABhJKAFhJJAFhJNABGeAhQiPiMAAiPhRjVhfiShTAHiSDiAhXACiAOACiACkXhPVKAEWhKABWCjVHAHGCBAGMB",
   "AGGBDGABFGABCGBBAAEDhFFEVADhQFEDDFEDMVADiFFAGhfDnfFVABFFABFhFABFFABFHAAFAAAFAAAFAAAFeABFhUAA",
   "FOAAFNABFFAAFSABFCAAFIAABLGBBiWAABKDAABBKDABOAADMACBhAAOGhAAOBhFFABCDBBFDABaDABQDhIBCADB0ZAV",
   "BKAUB8fkDnfBzTABBfAABjIhAifDfhajTAEhaGWhFAAWAAEWAABiMhXAGiMBANiMAEWAIEGAAEGAAEGAAEGAAEGAAEGA",
   "AEGAAEGAAVfBidAhBHZAAHiYALHmVAZBUHABAHABYHIGDNBBHHDBDAAhCiVABGBBBhCCBAOiZBBOCAEhWhKAANidAABP",
   "hWfBhFAIBAOPNeAABhfNeBiQOhOBAOiXBlHHmtfBhfH0vfkBhkMACkBhWAIifhPlJpLATVifiQiXAHBhBDjFBCDiCABD",
   "BAADAAADHAUDNlFhMACBJAFlAhXAHjSiFAHjSLAFhEfichNBAicAjPhDAKjPANcAChdiNAABAhdJADhdBhPeAAhMhWAI",
   "hMNABhMJABhMDhPfjZiCAXjZEiDWAJEFABEFABEFAIEGAAEGAADhKBADIFADDBBADhZiPiDhNABiDJAFNq9DALNWADNh",
   "QAooDHrNABHjJAhFDGALhKEAEXZAAXEAAXAAAXBAAXBAAXJCjSAPCrKBBCiPABChVAGCAAfCPGPBJAFGNVBBhCAABSAA",
   "BDADCEAACkGABBAAABfDZBFDZBKOJBAOhMBBNeACNFABNFABNFABNCACBGAABGAJBEABbLAAbZAAbSAAbBAAbOABbNAh",
   "BbjaAEBCADBhMACBIFiOAABMACFAAhOBhMGAAkBkQcACkFhQAOGABaADjKhDAIjKCkMaAEkZhKAEjedAAjeAjLhDADjL",
   "NAhJkIiPlChPjNdABjNJAFjMhDADjMhDADkKhHAHiUhTAKiUAaKAAaOAAaGAAaBAAaKAAaOAAaGAAaBAClHhTALiBpWA",
   "IiBVAJiBHAXDFAADhJAADIAiEfFABfAAAfhLAAfBACfAABfAiYVAAiYIkefjFeAHjFIAhPhcSAAhcBAEhcEjObACjOAj",
   "AZAEjAAAhfkUfiEXADiETABiEhNZDAAZBAEZHAAZCAAZcABZCADZJAGZIAGkbfkYfAfjChGADjCLAIiOhVACiOGiaVAB",
   "iaHiZSAEiZHiJRAGiJDALiJGAiPkciIAhWiIhSAMiIhSAGiIFiXhHAHiXJAFhbhFAChbcAHhbBAmPCeAAiNhJAAiNCAB",
   "iNBAPCCAhWCDkahHAHlDhJAVkdZAhFkGbATkLWAIhXiNADhXhDAIhXAibiCAJibAABjUYAGjUJAFiVhUAAiVRAHkRhGA",
   "IlBifAARTAKidRAAidhOAhdhHGAAhHAAAhHDAAhHOAAhHKAFiehaAEieJAFKDAAKHABKBABKVAAKGAAKBAAKEAAGAKIA",
   "BKBABKCABKAAFKAAEKGABKGACKEAKUJAAUAABUAAAUhFAAUJAAUAABUAAAUDAAUJAAUBAHUBAcjGibAAjGEAdjdiHAHj",
   "dJAlFjThVABjThFAhBjEiEAKjEJAFhDMASjahZAFjaJAFhPTAbhVaABhVOADhVWAlYkJhbAjDkAiSALkAAYGABYAABYH",
   "AAYBAAYdAAYBABYLAIYJAiFiHHABiHhNABiHKAalKiHAHlEiSAMhYPkfhYAGhEJAlVjWhBANjWJAFhLIAAhLhMAAhLNA",
   "JhLcACiCfABiCVAAiCNAiIdGAAdBAAdhLACdAAAdBAAdIAHdJAFhBFAAhBBAAhBhEAAhBBAAhBFAGhBJApVkSYAGheQA",
   "AhehIAChecAiUifAAOIhRAMIAhN8ZAjFhNjOAAhNEAKhNmDAiyLkHjCAMiWhiVAJiWj8aAEkCyGAm1YkNhZAh2FiQxYA",
   "GiGeAAiGJADiGBjbiOAAjbJAFiRdABiRFAJhIiFAJhIJAAhIGAAhIUAEhISAtPkPhZAmFkTiaAjEiFiKADiFhYAGiFQA",
   "hfhTAjIAHBhfAAKHBANhTl_XAHhT3fhfuVAhIhfAhTIAo3GODAAOGAAOBAAOAhCoeOCAOhCAAchCCABOAANODAHjIsLA",
   "ioDhFjKAEhFMAChFIAGhFJABhFDBDAj6bBnZAFBtTAiLGhNABGWAIBjTAhbBnVAJBhGABBhdGCBQGHBBGGBdGDBhcAUF",
   "iFAjZBTALBTALBiWAIBYAkGBiUAABiGAABBABBAABBBABBDAABLAABAAABGAABiAAABDABBHAABGAABbAABDAABEAABA",
   "ACBGAABqTABBpDABBhRiK0LAOiKEAAiKOAhiPDeAFDFAmUhAGAAhAQABhAGAAhABAAhAEAEVhdAhAVAAjPhRhMAChRNA",
   "BhRJADhRBApflIeAQjfhZAEjfAAuPkVhJAmVjJhKADjJAAufEGAAEDAAEBAAEOAAjDmEABjDPAhIhUiLADhUJADhUBA4",
   "QBiDAiLBhcAmBCDAACaAACBAACAABCAAACJAACDAACAAACAAFCAADCAAACAAACAAACCAACBAACAABCAAACAAACAAACAA",
   "ACAAACBAACAABCDAACGAACDAACDAACAAACJAACQAECCAACEAACQAhTCBAoNBhLADBjDALBOABBOAABOAABhEAJBlNAhX",
   "BZhCABBAMBhLADBIAGBBANBFAkZB-XADBQACBMACBjWADBieAFBLADBAAOBLADBhXAHBJAFBhHAHBdABBLADBBAhdBqT",
   "ALBNABBMACBJAEBhXAGBOABBKAFBIAGBkSAABjFAhgFHhp2fAfHkhZAFHmdABHl0BANHnpQAOHzNAitBHwdAhvBHk6KA",
   "EHkifA13iQBAAdBifAjfGnPAl_wP"]

def runs : List (Nat × Nat × Nat) :=
  Packed.runs packed

/-- The place of a script in the table. -/
def index? (name : String) : Option Nat :=
  table.findIdx? (·.names.contains name)

/-- The code points of the script with a normalized name. -/
def find? (name : String) : Option CodeSet :=
  (index? name).map fun i => Packed.labelled runs (i + 1)

/-- The code points that the script is used with. -/
def extension? (name : String) : Option CodeSet := do
  let i ← index? name
  let entry ← table[i]?
  return (Packed.labelled runs (i + 1)).symmDiff (Packed.codeSet entry.extension)

end Wayfarer.Unicode.Script
