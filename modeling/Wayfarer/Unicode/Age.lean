import Wayfarer.Unicode.Packed

/-!
The property Age: the version of Unicode in which a code point was assigned, up to 16.
-/
namespace Wayfarer.Unicode.Age

/-- The versions that assigned code points, in order; they are labelled from 1 on. -/
def versions : List String :=
  ["1.1", "2.0", "2.1", "3.0", "3.1", "3.2", "4.0", "4.1", "5.0", "5.1", "5.2", "6.0", "6.1",
   "6.2", "6.3", "7.0", "8.0", "9.0", "10.0", "11.0", "12.0", "12.1", "13.0", "14.0", "15.0",
   "15.1", "16.0"]

def packed : List String :=
  ["BvVEDBdEHGAHAERHCIKJNBiYEEHBBhOEABJEEHQBiFEIGAHHIEHCBBEAGMKDBBKBABBAJCBAQAADBGAABAAABTAABhLK",
   "ABGEAGBBAEABAEABAEABAEABRFBGAHEIDEABLEABiBEABLEABhIKAEBGBEDBhUGBBBGBBBGBJABbEBBHIBBBJFGPJDKP",
   "LBMBQHAABhFABBGUABhGUABAEAABQBNAAACQIACMBJJABICAICAHBaADUABEAKHDNAQAKEIABAHIKEBAPAYAIABAMABZ",
   "KEBSECHCIFMABNGBBiHEBBEEABOEABdHBBJEEHAENAAEdHCEaABHCIdKREhQGAANJhaABUCLhNABLOAAMbABMAAATKAE",
   "YeAAYBAEbAYHNAQANKQFRBYASHXJYKUASORANaQALABCHABhUMBBRLAMABELAMBBYKBMEQALBJBIAJBQABCAABHABBBA",
   "BBVAABGAABAACBDABBAHABGABBBABBCIAAHBAADBBAABEABBULATBUAABHABAHAAABFADBBABBVAABGAABBAABBAABBA",
   "BBAAABEADBBABBCACKAAGBDAABAAGBOKAUAAJBCAABGHABAAABCAABVAABGAABBAABEABBJAABCAABCABBAAOBAHCABB",
   "JNAHAAGRATFAABCAABHABBBABBVAABGAABBAAHABDABBHKAABBBABBCAGXABBADBBAABCKBABBKHAMFAJBBAABFACBCA",
   "ABDACBBAABAAABBACBBACBCACBHIABCADBEACBCAABDABKAAFBAANIABLHHAEQABCUABHAABCAABWAABJQABEABYAKAB",
   "GAABCAABDAGBBAAKBRAABYAABBBKBABBJAGVAKHSAQABBUABHAABCAABWAABJAABEABHBBGAABCAABDAGBBAFYABAAAB",
   "BJBABBJAAJBZAALTAQABBXABHAABCAABWMABPMATBKABFKAAABCAABDMASAADSCBASGRABBKBABBJKFSCKGAAXAEBAAE",
   "RACEXAAEIAAEAABEGACEAADEFAAEAAAEHAFQJABECALBhZADBcAhEBBAABAAAVABBVABAAAVABAVFBDVABGVABCAABAA",
   "ABAVBBBVABMVABCABBEAABAAABFZAAABJABBBNBAfCiHAAChAEAKBADCaMDCFEACAAACUECCGEACAECAAEOAAKAEAIBK",
   "CLDMBAhEEhBKAEEKAEBKAEGKCEDKFEZKhfLDKBBhFAANAAENAABBhGGBIBBAIANCBiZLEBiDLEBiRLFEGIAEheIAEAAA",
   "EDABEGAAEAAAEDABEhGIAEAAAEDABEeIAEAAAEDABEGAAEAAAEDABEGIAEGAAEWIAEeIAEAAAEDABEGIAEhGIAESABMB",
   "IBEbACIZAFEiURAABRFABLAEzVLIEcACEiQQHAGGMYAGGYAAIYAGWAIGTALGMAAGCAAGBALEicHAABEJAFHJAFEOYAEJ",
   "AFEiXUAAGEhJKAAELiFAJHcQBAAHLADHLADHAACHhJABHEAKIhJLBADIZAFIJLAACIBHfIbABIBLheAALcABLKAFLJAF",
   "LNABQOXBYNAhQJiLYAAAbBJhMYBbAKhKNCKLNFMhTAHMDKhXACKOACKhSSIbBAEUhKABUCNHAHLhCNDTAQBVAAEHjLIi",
   "XJGKbQOTDYASAMALAJBBkaCAKDBiZKFBVABBFABBhFABBFABBHAABAAABAAABAAABeABBhUAABOAABNABBFAABSABBCA",
   "ABIAABhOEABWGAEFGEHBIBGAIGGEKAAAPDBGGAABBaAAIEMHACBKCADAECGBIDLCMAOAQCRATAYAAOBREBGGIAJDKAAO",
   "BhYEBHAIAGOIAJBKALCBhPEAJAKDLARBADBiaEIGLBnRGNBAEABjYEAGAEdGhTHBIKJLLAMKQGSDTABhEEBbCAVBKAUB",
   "kKGTHABkVGJBiPEHGHBTHBGBIAEABiVEBGLIBGJHHIKKALBHBIPJAKJLCKDLJMALSMALAMDLXQABDMABDMBBbMABhCMA",
   "BAMABDMCBALABGMBBGGNBeMCBXMABNMAIGJDNAKANAMBGbKDGPEnfGvfHNIFJGKEJDKhIQCKELEQZABQfAAXAQhBUCQL",
   "VAQHTAUYRDUOVAIhOYAIhOYAJMKCLAKCJDKFLBIjKLGNBAEIhMAANAAENAABIhVNBAGIAMAANMAIWAIIGAAIGAAIGAAI",
   "GAAIGAAIGAAIGAAIGAAKfIXKDIBKSLANJQGSBTEUEVAXCYKAhBEZAAEiYALEmVAZELaDBhXECGCEABAAABiTGBABBFGB",
   "BidGAAEBhHKATAUAAABidAABPEXMCXEIPKTbBAIaAGPBcHBAABhDLLHAGOBbHBIABhRGOBLHDBhOWABjWHDBjCHBBeHA",
   "EmtVXJHhfB0tFIVKHLHNARITUUEXMYCEhkMACERGBEPGAELGAECGAEAAILhPKpLATKfMBKRNHKbQFRANALiXAHIWJDKE",
   "JBKjKMBRAMBNBQLMJNAQCSAUAQBRFUBVFYBVEXDbCABYBAAYAAAYEbCAUYCXBQANBMAKEIhLXAACLJAFJhXAHKiESAAH",
   "KLAFLbRBUBKiTAKKALcACLiNAALKADLBQeAAKhWAIKNABKJABKDLbQDLiCAXLENWAJMFABMFABMFAIMGAAMGAAQhPRDQ",
   "BVBXDADRiPLhNABLJAFCq9DALLWADLhQAigDBmxNNBGhaLCABIjJAhFBGALBEAEEABYAABEAABAAABBAABBAABjLMPYA",
   "APBrMYPBhfABBhVAGYAFfBLGAHAYBGPIJAFBDKCQGRBBUGBHBBJAABSAABDADBCGABAAABkGABBAAABidGBBidACBFAB",
   "BFABBFABBCACBGAABGAJECDABCHLAAHZAAHSAAHBAAHOABHNAhBHjaAEHCADHhMACHIIiKQBSBAAKLXAACQAAhOKhNAk",
   "BKcACKhQAOQbADFeQAFDAITCFaAEQhKAEHdAAHAIhDADINAhJFhFHBFhFHiPABHJAFShDADShDADQhHAHQhTAKQAYKAA",
   "YOAAYGAAYBAAYKAAYOAAYGAAYBACbhTALQpWAIQVAJQHAXYFAAYhJAAYIAiEHFABHAAAHhLAAHBACHAABHALVAALIQhe",
   "AHQIAhPRSAARBAEREJZLBACJAKZAEKAAhfNhXADRBNBRPABRhNIDAAIBAEIHAAICAAIaUBABICADIIUAAGIIAGLfQfAf",
   "QhGADQLAILhVACLcABLaAELHQRAGQDALQGAiPLiIAhWRhSAMRhSAGRFUhHAHUJAFbhFACbcAHbBAmPLeAAXhJAAXCABX",
   "BAPbCAhWbAZCUhHAHUhJAVYZAhFXbATVWAIMiNADMdYFAIQALiBYAAJUAABNYAGNJAFNhUAANNUCXAAHQhGAINiIRDQA",
   "XBNJQAREAAQTAKQRAAQhKSAZCAhdRGAARAAARDAAROAARKAFQhaAEQJAFRAQCAAQHABQBABQVAAQGAAQBAAQEAAUAQIA",
   "BQBABQCABRAAFQAAEQGABQGACQEAKbJAAbAABbAAAbhFAAbJAAbAABbAAAbDAAbJAAbBAHbBAcSiZXASAAASAUAVAXBA",
   "dQiHAHQJAlFQhVABQRRTAhBQiEAKQJAFSMASNhXVAYAAFNJAFbTAbRZUAABROADRPYGAlYUhbAjDQiSALQAXGABXAABX",
   "HAAXBAAXdAAXBABXLAIXJAiFVHABVhNABVKAaTiHAHThTVBTWUATEAMYPQhYAGZJAlVbhBANbJAFSIAAShMAASNAJScA",
   "CSfABSVAASNAiITGAATBAAThLACTAAATBAATIAHTJAFUFAAUBAAUhEAAUBAAUFAGUJApVUYAGZQAAZhIACZbbAAiUXAA",
   "OVhRAMVAJ7OQhJRAAjFJjCQLAAJDQAAKRmDAiyLYjCAMLhhOZAVIZcAJbj8aAERyGAm1YbhZAh2FMxYAGQeAAQJADQBY",
   "iOAAYJAFQdABQFAJQiFAJQJAAQGAAQUAEQSAtPbhZAmFUiaAjENiEVFADVANhOVIAGNQAhfSATAVBXAAKXBANSl_MUEV",
   "FAHS3SXvCAhIbAXIAo3GYDAAYGAAYBAAMBTocYDAOZAAcVCABZAANVDAHTsLAioDQjKAEQMACQIAGQJABQHAj6bbnZAF",
   "btTAiLYhNABYWAIYjTAhbFnVAJFhGABKAFlTRKYBAUIiFAjZZTALUTALHiWAIJRUGAkGFiUAAFiGAAFBABFAABFBABFD",
   "AAFLAAFAAAFDHAFBAAFiAAAFDABFHAAFGAAFbAAFDAAFEAAFAACFGAAFqRIBABFpBJBABFhRR0LAOREAAROAhiPYeAFZ",
   "FAmUSGAASQABSGAASBAASEAEZhdAhAZAAjPVhMACVNABVJADVBApfYeAQVhZAEVAAuPZhJAmVbhKADbAAufYGAAYDAAY",
   "BAAYOAAQmEABQPAhISiKVAADSJADSBA4QUiDAiLVhcAmBNDAANaAANBAANAABNAAANJAANDAANAAANAAFNAADNAAANAA",
   "ANAAANCAANBAANAABNAAANAAANAAANAAANAAANBAANAABNDAANGAANDAANDAANAAANJAANQAENCAANEAANQAhTNBAoNK",
   "hLADKjDALMOABMNQAAAMOAAMOQVAJLKQBXCLeUAMALAMKLAMALAMBLAMCLAMCLEMHLAMGLAMJNBVAXCMILAMALBMBLAM",
   "JLDMBLAMJSRXAAhXMZLAMBAMLhBMISAADLIAGMBANTFAkZMhAQLRCMFQAMiFQARBMTQLMhEQAMEQDREQLMQQGRHMheQA",
   "MAQAMlVQAMDQBRAMhdQBNDQGREMXQRSAQhISAQiVMENAMPNAMCNAMANAMANAMANAMCNAMFNBMDNAMANBMDNAMLQBRBMK",
   "QhPMiFQJRASBTBVAXBADZAYCQMACQDSCTBUAVAXBACMjTZCADZEQiUUDZAAFVLADYAAOQLADQhXAHQJAFQhHAHQdABXB",
   "bJADbBAhdTLXAVCRISFTASHTHSATBSLVASLTAUCSOTMUEVAXAUDXBYAUAVAUDRESMTFUKXBVFXCVBUJVFRAUBVHXAYAV",
   "CTWUYViTALUNABVDXAZCVCYBACVCXDZBbAAEbAVFXSYDZCXGYDZCbAZAXCYCbAAGZBXGYCZBbAABbAYHZAbAAFYGZBAG",
   "XkSAAXhWbhEXJAhgDCBFhp2WXGYBAfLkhUYDZAAFMmdABRl0BANTnpQAOazNAitBFwdAhufCBXk6KAEZkifAh3iNCBAh",
   "__dCBAh__dCBAh__dCBAh__dCBAh__dCBAh__dCBAh__dCBAh__dCBAh__dCBAh__dCBAAFAAdFifAjfHnPAh_wNCkgg",
   "B"]

/-- The two spellings of a version: `6.1` and `v61`. -/
def isNamed (name version : String) : Bool :=
  name == version || name == "v" ++ String.ofList (version.toList.filter (· != '.'))

/-- The code points that were assigned in a version or in one before it. -/
def find? (name : String) : Option CodeSet := do
  let last ← versions.findIdx? (isNamed name)
  let runs := (Packed.runs packed).filter fun r => 1 ≤ r.1 && r.1 ≤ last + 1
  return CodeSet.ofRanges (runs.map (·.2))

end Wayfarer.Unicode.Age
