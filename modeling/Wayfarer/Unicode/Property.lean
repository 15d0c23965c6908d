import Wayfarer.Unicode.Category

/-!
Binary properties of Unicode 16. A property is kept as the categories that it nearly is, and the
places where it differs from their union.
-/
namespace Wayfarer.Unicode.Property

structure Entry where
  /-- All spellings, in small letters and without separators. -/
  names : List String
  categories : List String
  differences : List String

def table : List Entry :=
  [⟨["ahex", "asciihexdigit"], [],
    ["hQJHFaF"]⟩,
   ⟨["alpha", "alphabetic"], ["Ll", "Lm", "Lo", "Lt", "Lu", "Mc", "Nl"],
    ["6FAdMyANBABBBBBAiIKhQMBGQAjFGEDCBEAhDAePjGKjFBDIBCBDjKAhcLDGGShXAGHMCKBdAhfDdBdBheBEBCBEAeBD",
     "ALBheEBBZBWCEAhdABDRALBeAhdAhfADAhZCFCBCIBLBdAhdAGAFAVBcBhfDdBdAiQCBAiaACGSAjDACFBBQAjQBhRNB",
     "DJKBhDjQDBEGBZBECQDNACBGAPAhzUBBAcCdBeBiDGIAleBhCAjWCEBJAnEBCAhaABGDACHGBiKBLChRDhSEBAFABAhb",
     "BhADCCBBhaBDABEhYHCAlKAVAmbhBh2BhTinWfxOB9yEHhCBrCAIAZBkeAhZAhGEcKBAhMChTDCBCAhEAiDFCBCBMAIA",
     "hPAhTABCCBFAhNBnXACADAz5RAiiXEh0GCBBFD4UDiBAqBBiPAoEAhWNhNBLBhRDLAhdChEEBFiNBhUIBAOAifCCBBAG",
     "ACAkdADFXBheAMAjNFOAjIHDBjOFBAEBnRDGBeBiVHCACAjKABACGjGABACDBDoEIoDCkWDCBhFJhKDCDSFCChOMsZGB",
     "FiUVCGBBBBjaFDABBBCBADAiIBDAqdBLBhUEFBwucLDBjxAAhfDzoLAlmGBGFj0NGBQCGBBBEjEAilXAh_IZGZGZ"]⟩,
   ⟨["bidic", "bidicontrol"], [],
    ["hwcAmvRBaEhXD"]⟩,
   ⟨["bidim", "bidimirrored"], ["Pe", "Pf", "Pi", "Ps"],
    ["hcABAn-ZHpAAmADDFDADBDDBDBABAEIFABRFDJBBABHBfCDFAJBCSFBJECBEXCPhABhkeACBDBBCFDFCDDtVFBNIAHFD",
     "AEEBBGAEABCCBKFQSBDCABACABDFBGCYBLBEDBBCBEhKCHBhHFABADEFCEADEBAoAAyDAuaChzoeBmXBcPCBbBlWABAh",
     "19cAhZAhZAhZAhZA"]⟩,
   ⟨["ci", "caseignorable"], ["Cf", "Lm", "Me", "Mn", "Sk"],
    ["hHAGALAjcA2PAuXAkUAmxDBKACAh3vLAheACAlRAGALA"]⟩,
   ⟨["cased"], ["Ll", "Lm", "Lt", "Lu"],
    ["lKAPAveGGLaABAiWAhOAvEAnGAlEBoNBEAfAJADAlAAlHAhmUAjfAioQAjLAzDAuQFhnCf5WhTikFAlfAuVAhLEFAjBB",
     "idC74WAhnCFoOAjSAkXIjIAyGAWAkJAjMAVB1jbAhNBh_BBhuLAhAA3uQDvcChIBxGMiABBAwgMDBGBBspYG9NAhifAh",
     "_EZGZGZ"]⟩,
   ⟨["cwcf", "changeswhencasefolded"], ["Lt", "Lu"],
    ["lVAhJAjJAhVAuFAjcANGZBDAsRAjwYiVCFikCIwRBnEHIHIHKCCAKCCAhKCCAoKAEADCCCCADEGADADBCBBAKBFAaP6G",
     "Zhh1AiPz6AGMEh2nIZaZaZaABBCACBCDBHaZaBBDCHBGbBBDBEBADGbZaZaZaZaZaZeYhBYhBYhBYhBYhBA"]⟩,
   ⟨["cwcm", "changeswhencasemapped"], ["Ll", "Lt", "Lu"],
    ["pYAiUAcBOADAjCASFbACABACCCAEAFBBACBBGBBBACCGEBABHCQkVAkMChHArDAhHAl7XhLhfMCCBPBLoBBBAzCAEACJ",
     "BADEGADADBBCBBEACDFEWf5WhTh8HACACEjIA-yLBhfHVAGAZAhDABAhEA5VhCBGFIiqkXiUBiGBBCACBCDBLBABGBiA",
     "BDCHBGBbBDBEBADGBqTCYBYBeBYBeBYBeBYBeBYBHh5UJBTGF"]⟩,
   ⟨["cwl", "changeswhenlowercased"], ["Lt", "Lu"],
    ["-SCnpNAEADCCCCADEGADADBCBBAKBFAaP6GZjr5QZaZaZaABBCACBCDBHaZaBBDCHBGbBBDBEBADGbZaZaZaZaZaZeYh",
     "BYhBYhBYhBYhBA"]⟩,
   ⟨["cwt", "changeswhentitlecased"], ["Ll"],
    ["pYAiUAcBOADAFACACAhGAhPASFbACABACCCAEAFBBACBBGBBBACCGEBABHCQkVAlWArDAhHAi6HhKCCjgAhLhfMCCBPB",
     "LoBBBAzKADBDAbAEAEACBIDhGP6QZh8HACACEjIA-yLBhfHVAGAZAhDABAhEA5VhCBGFIiqlRZaGBRaZaDBABGBKaZaZ",
     "aZaZaZaZaZaZabcYBFaYBFaYBFaYBFaYBFBAh5UJBTGF"]⟩,
   ⟨["cwu", "changeswhenuppercased"], ["Ll", "Lt"],
    ["pYAiUAcBOADAjCASFbACABACCCAEAFBBACBBGBBBACCGEBABHCQkVAlWArDAhHAl7XhLhfMCCBPBLoBBBAzKADBDAbAE",
     "AEACBIDhGP6QZh8HACACEjIA-yLBhfHVAGAZAhDABAhEA5VhCBGFIiqlRZaGBRaZaDBABGBKaZaZaZaZaZaZaZaZabcY",
     "BFaYBFaYBFaYBFaYBFBAh5UJBTGF"]⟩,
   ⟨["dash"], ["Pd"],
    ["oiTAhHAPAsGA"]⟩,
   ⟨["di", "defaultignorablecodepoint"], [],
    ["lNA1BA2MAi6CBhyTBiVEh_bEaEhRPknUAhzkbPnPAlAAiPIhvlHDlmPH4r0Fj_f"]⟩,
   ⟨["dep", "deprecated"], [],
    ["qJAhpJAioDABAihJBimFF1ZB73mWA"]⟩,
   ⟨["dia", "diacritic"], ["Lm", "Sk"],
    ["lXAyIiOBHFFpAEoJQBaBABBBAjbAKHEBkGBJCiDaibKhaIGAdCJADAifAPHhKIQbhdAQADDjHAQAjOAQAjOAQAhPChcA",
     "QAHAjXAjOAQAjOAQAjNBQAjcAjPALGBAjLALABEiLBbABABAEBiCCBBheAjQABBhIBEEZGBAKBjAAzAC9UBeAkUKDAFA",
     "jFAnVCpEAUHCAhHAIOCKjIAPAhGIhWBhaALBiCBkYYEAGACCjeAhChEELhFKzRANAQMi-fBjRCjdA0VAhEFBEFAidBCB",
     "ieB74WAhnCFoOAjCAMBjSBjeAkBCRAhFAkXAbRhZDhEAifAMAOAVBkJAKCiBDaAVBBAnVBz5QAkTQydPhlQAh6XCEAlF",
     "BxbFiBEBAsNCiGKhRDmAAhJAiIBjYBheAiMAJCjIBlSBiQBQAYGDEiZCBBNBifADAjbBnbBjeAjWBjTAoNBoCBEAkcAi",
     "TASAiRAtFAoCABBiRAtJBXAlnMOrmZAiuAEhbGJDvcCyMDiNBBAMB34OhNCWxACDFIHCGeDj8CNrQAhdDvbAoCB3AGjN",
     "CBDi1PE"]⟩,
   ⟨["emoji"], [],
    ["hDAGAFJjPAEAn8NAMAmYAWAiaFPBrPBMAlGAZKECmHAnHBKAJAhaDBEJACACBCAEACABBCADADBICFABAFLLBCABBBAS",
     "ACBSFBABBDBFACBEBLBFBCAFBBABBUBFFBDCAEACACFBACABABAGADAGAKBPACAEABAECBALBhQCJAOAOArUBuPCTBhT",
     "AEAhmaAMAyZABAjvrKAmKAlABMBOACJiLZBBXAUACIVBlOhBCjPCBBCCiSCCBoGBheLFBXHBCHMACDCAEBNBCAIBJAFC",
     "MCICCABAEAGADAGiVhQiFFHCCEJDABBDACJnDLEAobhOBJBlYjQMDJFhXHOCKGI"]⟩,
   ⟨["ecomp", "emojicomponent"], [],
    ["hDAGAFJn-TAmVAh3pLAh8-WZvbEhtQD4hzMif"]⟩,
   ⟨["emod", "emojimodifier"], [],
    ["j8_bE"]⟩,
   ⟨["ebase", "emojimodifierbase"], [],
    ["pwdAmbAQDjzjXAhcCCACCjVBCKVSDAECBCHABAYAmJBEAVAEBlOCDEiTAQCJALAxfACAIHGAJJCChYAhdBBBBARCBMnF",
     "ChKI"]⟩,
   ⟨["epres", "emojipresentation"], [],
    ["o4aBmNDDACAwJBVBhSLhLATANAIBRBFBIAFAVAHBBAEACAHAEBcAhDABAECBAhdCYAOA6bBhTAEAjxlOAmKAleACJiLZ",
     "BAYAUACEBCVBlOhAMIBiFBVMhKEEMQDADiGBABlaCheNDBXSAaBNAiWiUhQiFGADCCCEDLBHInDLEAobhOBJBlYjQMDJ",
     "FhXHOCKGI"]⟩,
   ⟨["extpict", "extendedpictographic"], [],
    ["lJAEAn8NAMAmYAWAiaFPBrPBMAifAiGAZKECmHAnHBKAJAhaDBFBLBjRKjVCKBABAGADAGAKBPACAEABAECBALEhNCJA",
     "OAOArUBuPCTBhTAEAhmaAMAyZABAjvrGnfNCfAhcFMBOACJShYbOKAUACIBDJtRFpdIoJhQjfjULiVhKMDhYHKFhIHei",
     "RMhOBJBtYoA_d"]⟩,
   ⟨["ext", "extender"], [],
    ["lXAwYB7OAtZAzWAkJAiZA3QAjfAiqDAhYAzDAsOAiEAk8JAhLEjHBidC74WAhvWA-CAWAkJAjMAVB1jbAigQBhuLAbAE",
     "AhmHApFAjUBvSChmPA0lJBhkcBBA8qYBhlRA6UC"]⟩,
   ⟨["grbase", "graphemebase"], ["Ll", "Lm", "Lo", "Lt", "Lu", "Mc", "Nd", "Nl", "No", "Pc",
     "Pd", "Pe", "Pf", "Pi", "Po", "Ps", "Sc", "Sk", "Sm", "So", "Zs"],
    ["iteAYArGAYAjGAYAnIABAEBBBJBjHAYAjXAPAipVAeAhgAAFABAFBjFAiHBlhaB-pDAjMA1udBkxAAjUAoIAOAJAjAAJ",
     "ACABCFAnAAMAnRAoGAzZAMAhwDA0lOB4rTBGF"]⟩,
   ⟨["grext", "graphemeextend"], ["Cf", "Me", "Mn"],
    ["lNAhqSFWAmAAhRAsABiQAmbAYArGAYAjGAYAnIABAEBBBJBjHAYAjXAPAipVAeAmZA5GAFABAFBjFAiHBhgXABCaEhRE",
     "BJj9eB-pDAjMA1peAkeBiZCkmBAPAnSAjUAoIAOAJAjAAJACABCFAnAAMAnRAoGAzZAMAhwDAlnOPu9QBzlODlmBBGN4",
     "r0GA"]⟩,
   ⟨["grlink", "graphemelink"], [],
    ["iqNAjfAjfAjfAjfAjfAjfAjfAjNBQAjcAjPAjfAmJAlUBh2ZBeAkdA0NAnDAjFBiGBksLA-0GAhFAkXAkOAjMApVAnWA",
     "3yRAhwGAhJAOAhZAjZBkLAjUAlUAjCAkACjRAjfAncAjfAjWAjUAoNAoDBlBAiTASAiRAtFAoEBiRAtJBwvMA"]⟩,
   ⟨["hex", "hexdigit"], [],
    ["hQJHFaFh_1JJHFaF"]⟩,
   ⟨["hyphen"], [],
    ["hNAjfAhmcAkzbAigJBjwFA3DAhzrHAlJAiXA"]⟩,
   ⟨["idsb", "idsbinaryoperator"], [],
    ["r_QBCJvRA"]⟩,
   ⟨["idst", "idstrinaryoperator"], [],
    ["r_SB"]⟩,
   ⟨["idsu", "idsunaryoperator"], [],
    ["r_eB"]⟩,
   ⟨["idcompatmathcontinue"], [],
    ["lSBFAn9WADKBOrTAEAWAjtlCAZAfAZAfAZAfAZAfAZA"]⟩,
   ⟨["idcompatmathstart"], [],
    ["owCAEAWAjtlCAZAfAZAfAZAfAZAfAZA"]⟩,
   ⟨["idc", "idcontinue"], ["Ll", "Lm", "Lo", "Lt", "Lu", "Mc", "Mn", "Nd", "Nl", "Pc"],
    ["lXA2PAj_BIhzIAhxRBoKAVAjoAAzLBieAhzzJA"]⟩,
   ⟨["ids", "idstart"], ["Ll", "Lm", "Lo", "Lt", "Lu", "Nl"],
    ["mkFBikRAVAjoAAzLB"]⟩,
   ⟨["ideo", "ideographic"], [],
    ["sgGBZIOC-FmtfiA0vf2oArNCjJ9oKAbl_XIhmVhJJpjHsLzoEhp2fhAkhZGmdCl0BOnpQPzNitCwdhvCk6KFkif"]⟩,
   ⟨["joinc", "joincontrol"], [],
    ["ogMB"]⟩,
   ⟨["loe", "logicalorderexception"], [],
    ["jyAEjbEi3QCCAhknaBCABB"]⟩,
   ⟨["lower", "lowercase"], ["Ll", "Lm"],
    ["lKAPAveGGLaABAiWAhOAvEAnGAlEBoNBEAfAJADAlAAlHAhmUAjfAioQAjLAzDAuQFhnSP6QZikFAlfAuVAhLEFAjBBi",
     "dC74WAhnCFoOAjSAkXIjIAyGAWAkJAjMAVB1jbAhNBh_BBhuLAhAA3uQDvcChIBxGMiABBAwgMDBGBBspYG9NAhifA"]⟩,
   ⟨["math"], ["Sm"],
    ["ieA7RCCAaBCBnhAAbCLAhADYBOBiBMEADBEESAEACJBADEGADBCBBCBFDDFEiLECDBBBBBABECBEBERCBBABGBAGBpCD",
     "lIBBAYARAtdBMIFEFBCBDEOABACFYBhZABAdDJBqWBfJsTVhfDhABh1jDABAEAmTABAh1mBiUBiGBBCACBCDBLBABGBi",
     "ABDCHBGBbBDBEBADGBqTCYBYBeBYBeBYBeBYBeBYBHChRlwADBaBBBACABJBDBABAGAEABABABCBBBACABABABABABBB",
     "ACDBGBDBDBABJBQFCBEBQ"]⟩,
   ⟨["mcm", "modifiercombiningmark"], [],
    ["hyUBCAkDAGADBvBBBCDAfA"]⟩,
   ⟨["nchar", "noncharactercodepoint"], [],
    ["h_uQfwOBh__eBh__eBh__eBh__eBh__eBh__eBh__eBh__eBh__eBh__eBh__eBh__eBh__eBh__eBh__eBh__eB"]⟩,
   ⟨["oalpha", "otheralphabetic"], [],
    ["6FAdMyANBABBBBBAiIKhQMBGQAjFGEDCBEAhDAePjGKjFBDIBCBDjKAhcLDGGThWBCOBBFCKBdChaGCBCBKAKBdChaEE",
     "BCBEAeBDALChaHBCBBVBWCEChaGCBCBJBKBeAhbEDCBCKAhIEhZGBCBCIBLBdChaGBCBCIBLBPAMDhaGBCBCKAKBdCiL",
     "FBABHSBhdACGSAjDACFBBQAlDSJKBhDjOLBACDXDECBCCGDDNLBAKDhzUBeBeBeBiCSlcBhCAjWLEImeEhZJCTiKBLCh",
     "REhQOhcCeICBhZKhSSschBh2BhTinWf-jUHhCBrCAIAXEiYBhSPBAhZAhGEcLhNDhQLhFAiDNMAIBhNChSABCCBFAhME",
     "FAnNHz5TAiiXEh0GCBBFD4UDiBAqBBiPAoDChVNhNBLChNIJAhdChELSBhZChQMOBicICAGACAkdJXDhaGCBCBKAKBiU",
     "IBACABDBBjHMBCjKRnNGCGdBiSOBAjKKjHNoBMnXFBBCBDABAkOGCFEAcJhKEBDSKhONsXHBGiTVBNjaFDABBBCBADAi",
     "CEBBBDqcDJBBAhQGDCwudQjxAABhWHDidBzlMAo7BGBQCGBBBEjEAilXAh_IZGZGZ"]⟩,
   ⟨["odi", "otherdefaultignorablecodepoint"], [],
    ["6PAjwPBhyTBilPAkneAhzxbAiPI6ggHABdjAjfnQjwP"]⟩,
   ⟨["ogrext", "othergraphemeextend"], [],
    ["iteAYArGAYAjGAYAnIABAEBBBJBjHAYAjXAPAipVAeAhgAAFABAFBjFAiHBhgYAkhBB-pDAjMA1udBkxAAjUAoIAOAJA",
     "jAAJACABCFAnAAMAnRAoGAzZAMAhwDA0lOB4rTBGF4r1Nif"]⟩,
   ⟨["oidc", "otheridcontinue"], [],
    ["lXA2PAj_BIhzIAhxRBknNAhzzJA"]⟩,
   ⟨["oids", "otheridstart"], [],
    ["mkFBikRAVAj7MB"]⟩,
   ⟨["olower", "otherlowercase"], [],
    ["lKAPAvVIHBeEjAAhUAjsBAjhPheNAhChE1RANAQMmTP6QZh8SB-weBmSAkBCDB7CDJA3gWACCBhJBIh2jVhd"]⟩,
   ⟨["omath", "othermath"], [],
    ["ieA7RCCAaBCBnhAAbCLAhADYBOBiBMEADBEESAEACJBADEGADBCBBCBFDDFEiLECDBBBBBABECBEBERCBBABGBAGBpCD",
     "lIBBAYARAtdBMIFEFBCBDEOABACFYBhZABAdDJBqWBfJsTVhfDhABh1jDABAEAmTABAh1mBiUBiGBBCACBCDBLBABGBi",
     "ABDCHBGBbBDBEBADGBqTCYBYBeBYBeBYBeBYBeBYBHChRlwADBaBBBACABJBDBABAGAEABABABCBBBACABABABABABBB",
     "ACDBGBDBDBABJBQFCBEBQ"]⟩,
   ⟨["oupper", "otheruppercase"], [],
    ["orAP6GZjzjAZGZGZ"]⟩,
   ⟨["patsyn", "patternsyntax"], [],
    ["hBOKGaDBAaDhCGBABBBABBEAEADAXAfAn4YXIOCSBJpR2PlAzVehjLwAjfsBCEYPAhzoNBoFB"]⟩,
   ⟨["patws", "patternwhitespace"], [],
    ["JESAjEAn8IBYB"]⟩,
   ⟨["pcm", "prependedconcatenationmark"], [],
    ["hwAFmXAhRAsABiQAih-aAPA"]⟩,
   ⟨["qmark", "quotationmark"], [],
    ["hCAEAkDAPAn6cHZBjwHAuJDNChzxBDldAEAiaB"]⟩,
   ⟨["radical"], [],
    ["r0AZBiYMmV"]⟩,
   ⟨["ri", "regionalindicator"], [],
    ["j8vGZ"]⟩,
   ⟨["sterm", "sentenceterminal"], [],
    ["hBAMAQAhqJAkTClUAhLCnWAhdABADBpFBh3EB4WAEB4FAmGBkdBhNAFApaBrCDlCBKBCBdClbBiBB9EAXBJCjlPCpSAN",
     "AWBtNA9ncAoOBnDADAreBiWBifAkYBkTCkQBnZA0xGACBhbADBlJAMAQAiBAi3UBhndEhMDldBjVDjfCkBBGAQBiYBBB",
     "jMApKBjVBrVBFOjJBnZCwFABAnbBiXBtEB1UBiKBy5JBkFAiBBLAxJBpIAzwGAnvIA"]⟩,
   ⟨["sd", "softdotted"], [],
    ["jJBmEAoZAeAhUAUAqAAjCABAmoJAhTANADAkEAkdAtFAmWBi5SAjp9FBhSBhSBhSBhSBhSBhSBhSBhSBhSBhSBhSBhSB",
     "ikGApRBaA"]⟩,
   ⟨["term", "terminalpunctuation"], [],
    ["hBAKABALBDA5eAIAwBAhZAiIAOABClUAhLKBAnLBhWFBHfAoFBhnUBlMAEFpXB4VH4FAjcCiHBkdCDAhHDCBpaBrCDlC",
     "BKBBCdClbEheB9EAXBJCjlPCpSANAEAKABBDBtMB9nbBoNCnDEreBiWBifAkXCkTCjfAQBnZA0xGACBhZCBDlJAKABAL",
     "BDAiBACAhhaAhQAhkGAmHApWBkYFiEFiZD9YEhMDldGjQDjfCkBBGAQBiYEjMApKBjVCMBrGDDOjJBnZCwFABAnbBiXB",
     "EBseChNA0FBiKBhpLExvZBkFAiBCKAxJBpHBzwGAnvHD"]⟩,
   ⟨["uideo", "unifiedideograph"], [],
    ["tgAmtfiA0vf2wOBBABBKABABBCCihuWhp2fhAkhZGmdCl0BOnpQPzNktCk6KFkif"]⟩,
   ⟨["upper", "uppercase"], ["Lu"],
    ["orAP6GZjzjAZGZGZ"]⟩,
   ⟨["vs", "variationselector"], [],
    ["mgLCBAh5vQP6g3QnP"]⟩,
   ⟨["wspace", "whitespace", "space"], ["Zl", "Zp", "Zs"],
    ["JEjXA"]⟩,
   ⟨["xidc", "xidcontinue"], ["Ll", "Lm", "Lo", "Lt", "Lu", "Mc", "Mn", "Nd", "Nl", "Pc"],
    ["lXA2CAMAj_BIhzIAhxRBoKAVAjoAA2LAhy7CFsWBjUABABABABABABABAnGA"]⟩,
   ⟨["xids", "xidstart"], ["Ll", "Lm", "Lo", "Lt", "Lu", "Nl"],
    ["7aAi1YAjfAiuRBikRAVAjoAAhzxOFsWBjUABABABABABABABAofB"]⟩]

def Entry.codes (e : Entry) : CodeSet :=
  (Category.ofCodes e.categories).symmDiff (Packed.codeSet e.differences)

/-- The code points with the property of a normalized name. -/
def find? (name : String) : Option CodeSet :=
  (table.find? (·.names.contains name)).map Entry.codes

end Wayfarer.Unicode.Property
