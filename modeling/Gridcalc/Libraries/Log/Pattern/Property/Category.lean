import Gridcalc.Libraries.Log.Pattern.Property.Row

/-! # General categories

The general categories of the Unicode character database, version 16.0, and the sets that are
asked for like them. -/

namespace Gridcalc.Log.Pattern

/-- The categories. Those that hold others stand in front of them. The first one also has the
surrogates, which are no characters, so that they do not divide it. -/
def categories : List PropertyRow :=
  [⟨"c other", "cc cf co cn", "dduUdaT", ""⟩, ⟨"cn unassigned", "any -assigned", "", ""⟩,
   ⟨"assigned", "l m n p s z cc cf co", "", ""⟩, ⟨"l letter", "lu ll lt lm lo", "", ""⟩,
   ⟨"lc casedletter", "lu ll lt", "", ""⟩, ⟨"m mark combiningmark", "mn mc me", "", ""⟩,
   ⟨"n number", "nd nl no", "", ""⟩,
   ⟨"p punct punctuation", "pc pd ps pe pi pf po", "", ""⟩,
   ⟨"s symbol", "sm sc sk so", "", ""⟩, ⟨"z separator", "zs zl zp", "", ""⟩,
   ⟨"any", "", "AclkcL", ""⟩, ⟨"ascii", "", "AeX", ""⟩,
   ⟨"cc cntrl control", "", "AbFdQbG", ""⟩,
   ⟨"cf format", "",
     "gRAcaJFVAhJAbWAoTBdBAftIAdaPEZEbWEAJdghIAjOCgiYAOAnkJPbzqTDhwWHbtkzLAbDdR", ""⟩,
   ⟨"co privateuse", "", "dgvOjmDcahxNdsyNBdsyN", ""⟩,
   ⟨"ll lowercaseletter", "",
     "dTZcFAbOXAHAAAAAAAAAAAAAAAAAAAAAAAAAAAAAAAAAAAAAAAAAAAAAAAAAAAAAAABAAAAAAAAAAAAAAABAAAAA" ++
       "AAAAAAAAAAAAAAAAAAAAAAAAAAAAAAAAAAAAAAAAABAAAACBAAABACBDABACCBABAAAAABAABAABACAAABBBCFAB" ++
       "ABAAAAAAAAAAAAAAAABAAAAAAAAAAAAAAAAABBAAACAAAAAAAAAAAAAAAAAAAAAAAAAAAAAAAAAAAAAAAAAAAAAA" ++
       "AAAAAAAAAAAAGBABBAADAAAAAAAAcQAbAhKAAACACCRAbAbIABCCAAAAAAAAAAAAAAAAAAAAAAAEAABABBbYbVAA" ++
       "AAAAAAAAAAAAAAAAAAAAAAAAAAAAAAAAIAAAAAAAAAAAAAAAAAAAAAAAAAAAAAAAAAAAAAAAAAAAAAAAAAAAAABA" ++
       "AAAAAAAAAAABAAAAAAAAAAAAAAAAAAAAAAAAAAAAAAAAAAAAAAAAAAAAAAAAAAAAAAAAAAAAAAAAAAAAAAAAAAAA" ++
       "AAAAAAAAAAAAAAAAAAAAbVbOehAbQBCbdFFdfTIAAeMbRcKMAbHdXAAAAAAAAAAAAAAAAAAAAAAAAAAAAAAAAAAA" ++
       "AAAAAAAAAAAAAAAAAAAAAAAAAAAAAAAAAAAAAAAAAAAAAAAAAAAAAAAAAAAAAAAAAAAAAAAAAAAAAAAAAAAAAAAA" ++
       "AAAAAAAAAAAAAAAAAAAAAAAAAIAAAAAAAAAAAAAAAAAAAAAAAAAAAAAAAAAAAAAAAAAAAAAAAAAAAAAAAAAAAAAA" ++
       "AAAAAAAAAAAAAAAAAAAAAAAAAAAAAAAAAAAIHFJHHHHFJHHHHNBHHHHHHEABFACCABHDBBHHJCABkNACBCAbAADA" ++
       "DABBHDDAcAAebAbVAACBAAAAAADAABAFEAAAAAAAAAAAAAAAAAAAAAAAAAAAAAAAAAAAAAAAAAAAAAAAAAAAAAAA" ++
       "AAAAAAAAAAAAAAAAAAAAAAAAAAAAAAAAAAAAAAAAAAABGAAADALbLAAEAbtwCAAAAAAAAAAAAAAAAAAAAAAAAAAA" ++
       "AAAAAAAAAAAAAAAAAASAAAAAAAAAAAAAAAAAAAAAAAAAAAfEAAAAAAAAAAAACAAAAAAAAAAAAAAAAAAAAAAAAAAA" ++
       "AAAAAAAAAAAAAAAAAAAAAAAAAAAAAAAAAAAAHAAAABAAAAAAAAADAAABAACAAAAAAAAAAAAAAAAAAAAEAEAAAAAA" ++
       "AAAAAAAAADAAABACAAAAAAAAAAAZACAbfObQEIGdBbeaHGLEboYZbvGbNfFbJfYKAOAGABcrAbYeUVegNbFbgjVb" ++
       "FbmmJZZGARZZZDAAAGAKZZZZZZZZZZZZZZZZZbBbBYAFZYAFZYAFZYAFZYAFAAcsXJATFFduCbH", ""⟩,
   ⟨"lm modifierletter", "",
     "baMRDLNEGAAAfCAEAsJAiVAgHBkIBDAbEAIACAgDAgKAbvNAeWAvSAcpLAeCAxMArVFgRcKMAbHbKbaMAMAPMemW" ++
       "BjGAhIAsAAbQEEAdSBdOCbqbTAbwBFkJAeJAbBBeQIdBAWAeACCBsAAVAfGAeDAUBdYDIAbfvHAbSBczNFAbPAIc" ++
       "cWAbFAbjnRDtNCbNBvDMcLBAAygPDAGABsgMcJhSGbkEAbrAA", ""⟩,
   ⟨"lo otherletter", "",
     "gOAOAjVADDhZAbfUbADDbSbFAJbIBAdUAAXBJCBAPAAbDbCdKKAXbGUVbPYGKEXAFQbOcGcBCARAGJPODHBBBVAG" ++
       "AACDCAPAMBACNBJAHFDBBVAGABABABbEDAASCPIACAVAGABAECARAOBWAKHBBBVAGABAECAbDBACOAQAAFCCADCB" ++
       "AAABCBCCCLVAbZHACAWAPCAZCBABBbDADHACAWAJAECAbEBABOBQIACAbOBAPAECHCXFERCXAIAABGcFbVABLFcG" ++
       "BAAAEAXAAAJABIABEWDbFAcKHAbJbAEeKbQTAPFDDCACBGCDMLAeImQADBGAAADBbOADBbGADBGAAADBOAcEADBc" ++
       "ObKPeIxVBQAZEcWFHGRMSNRNMACObZbNAcObIAcAGEBbHAAEcRJbEbWbDBEKbRDZcBWIcAgTbUQHcBbDMBJbRZbJ" ++
       "bOCJbDeIDAFABCAbpPDenUcDXWIGAGAGAGAGAGAGAGvEAcAADdHHAAdLDAEbQAdPQbFbVPtRjtNcLbfcEAbrYcOb" ++
       "NHkHDPJBcNAbWcRgMAdYACGACADAWbCbZNbXcJFCAABKbBJWYbCGbUbSEBIJEAbOWCAHTPAFCACbXAACBBEBAAAX" ++
       "BCKGANFBFBFIGAGfObIbCqnRLWDbWmnBoBBeBcOAAJAMAEAAABABAeDbGnYRcLBcBbNLeLEAfEeAJAbSBbECFBFB" ++
       "FBCbILAZASABAOBNbHeSoYbCCbWbUbFMTAHFbLJbDBbJDHeXcZdTbNHbZdNbZLlYIVJHfVFBAAbRABCABWJWIbEc" ++
       "MSABJVJZcRcDFBcLAODACAbCbPbCCbCbIHAbBbAcBJVJSMReFcUhAbJbLDAAlRbPFBPCcGbCJAHVbPRbTUbAWLcA" ++
       "cEBBAMbSbFYZbJbCABAHbICALbVNDUAAAbIRAYSBcKGAAADAOAJGbUbLHBBBVAGABAECARALEbDJAABAAbLAAYAA" ++
       "AbRcARDTCbDbVTBAAhBbUbODbJbVTAcGbQMAcSbAbKGhCbRiCHBABHABAXOAAAdPHBbMPAAAbBAJbNGAUAKbTSAR" ++
       "cUhQbGbEIAbKQAbWbDeHGABAbLUAYFABAbFNAmOSOAAMAbHeTAdAbjLiVhNdxJdSObpFQFYfxQEwKkdCbDcpTvWG" ++
       "bEQdAQbDRbVbYUESqSbNpOcWEAgSjbZHbvPbOJngGlEOAbCCBANDHpFdkTeCEMCIGJnbBAtGbSbGAmIbDRbRsPbA" ++
       "iUbDBAtAGADABAOAhObzMDAbAABAABAAJADAAAAFADAAAAAACABAABAAAAAAAAAABAABDAGADADAAAJAQECAEAQg" ++
       "nZclfBbFgdTFiNBinPNlbKOxXdqVuVcfXhhYEgfF", ""⟩,
   ⟨"lt titlecaseletter", "", "rLABABAbLAlfGHHHHHLAOAbUA", ""⟩,
   ⟨"lu uppercaseletter", "",
     "cNZdWWAGbGAAAAAAAAAAAAAAAAAAAAAAAAAAAAAAAAAAAAAAAAAAAAAAAAAAAAAAABAAAAAAAAAAAAAAABAAAAAA" ++
       "AAAAAAAAAAAAAAAAAAAAAAAAAAAAAAAAAAAAAAAABAAAACBAAABACBDABACCBABAAAAABAABAABACAAABCAGABAB" ++
       "ABAAAAAAAAAAAAAAABAAAAAAAAAAAAAAAAABABAACAAAAAAAAAAAAAAAAAAAAAAAAAAAAAAAAAAAAAAAAAAAAAAA" ++
       "AAAAAAAAAAAGBABBAADAAAAAAAAlCAAACAHAFAACAAABAQAIbIABCCAAAAAAAAAAAAAAAAAAAAAAAEABAABBbYbV" ++
       "AAAAAAAAAAAAAAAAAAAAAAAAAAAAAAAAAIAAAAAAAAAAAAAAAAAAAAAAAAAAAAAAAAAAAAAAAAAAAAAAAAAAAAAA" ++
       "BAAAAAAAAAAAABAAAAAAAAAAAAAAAAAAAAAAAAAAAAAAAAAAAAAAAAAAAAAAAAAAAAAAAAAAAAAAAAAAAAAAAAAA" ++
       "AAAAAAAAAAAAAAAAAAAAABbLehCbLAAEAbbTdHdgKAFbQBCmHAAAAAAAAAAAAAAAAAAAAAAAAAAAAAAAAAAAAAAA" ++
       "AAAAAAAAAAAAAAAAAAAAAAAAAAAAAAAAAAAAAAAAAAAAAAAAAAAAAAAAAAAAAAAAAAAAAAAAAAAAAAAAAAAAAAAA" ++
       "AAAAAAAAAAAAAAAAAAAAAAIAAAAAAAAAAAAAAAAAAAAAAAAAAAAAAAAAAAAAAAAAAAAAAAAAAAAAAAAAAAAAAAAA" ++
       "AAAAAAAAAAAAAAAAAAAAAAAAAAAAAAAAIHHFJHHHHFKAAAAAAAHHcTDLDLDLEKDkBADACCBCBACEFAAAAAADBDJB" ++
       "EAcIAdzFbVbVAACBAAAAAADAABAHCAAAAAAAAAAAAAAAAAAAAAAAAAAAAAAAAAAAAAAAAAAAAAAAAAAAAAAAAAAA" ++
       "AAAAAAAAAAAAAAAAAAAAAAAAAAAAAAAAAAAAAAAHAAADAbtyIAAAAAAAAAAAAAAAAAAAAAAAAAAAAAAAAAAAAAAA" ++
       "AAAAAASAAAAAAAAAAAAAAAAAAAAAAAAAAAfEAAAAAAAAAAAAACAAAAAAAAAAAAAAAAAAAAAAAAAAAAAAAAAAAAAA" ++
       "AAAAAAAAAAAAAAAAAAAAAAAJAAAABAAAAAAAADAAABAAACAAAAAAAAAAAAAAAAAAAAEAEAAAAAAAAAAAAAAADAAA" ++
       "BCAEAAAAAAAXAbhaGZbuYbNfFbJfZKAOAGABcqBbYgAVegNbFbgjVbFbmmPZZZZZZAABBABBBDAHZZZBADBHAGbA" ++
       "BADAEAACGbAZZZZZZZZZZZbDYbGYbGYbGYbGYbGAgnKbH", ""⟩,
   ⟨"mc spacingmark", "",
     "dkTAcCABCHDABbXBcFCFBBBJAbQAcFCcNAcFCHAABcABcFAAAFBBBJAdXBABCCACJAbOCcIDcIBcFAAEBBABIBbB" ++
       "ANBcFCECACJAbPBcWCFHRBmRBcKAgOBDAFABBYBJCBGUBBFBAJCclRAbDAeYAGHABnHDBCDBAFiPBcFAAAIAABHF" ++
       "fOAbVAEAAEABcIAbDADBBAcHABCAACBbVHHBgOAUAhhDBbtlABBAdJBbXPfLBbUAbVBDBBCeFBBBXAbSAAAeEABB" ++
       "EAjCBABABAAblxIAAAeWAbSCDBeKAXBcGAbVCIBMAdOCCBAAgNCbEBcFBADBBBCIAJBdFCGABAADABAAdWCHBCAe" ++
       "BCFAADBAjCCFDBAeICHBAAeEAABFAdYAABDAkACIAjMFABDABAAAfLCHDDAdFAbCBcJApQANAeBAGABAiEEDBAAn" ++
       "LBLAbVBHBAAyyXCfjFcCdZBbkxMBFF", ""⟩,
   ⟨"me enclosingmark", "", "bsQBikPAciFDACbyoWC", ""⟩,
   ⟨"mn nonspacingmark", "",
     "bdOeHkOEkEbSAAABABAAcTKbVUPAdWGBFBBADbIAbDbAdMKcFIIAXDAIACAEbQCcGIbPXAbFcCAAADHDACGJBbCA" ++
       "cFADDHATBZABBcEADBDBBCCAbDBCAKBcEADEABDATBVFAAcFABAADHAGBKBbDAcIALAbXACAcCAACECADGBKBbCA" ++
       "cFABAFAEBTBbBBcEBDDHATBbCAcTAGCAAdLABGLHdTABIKGcUBbAAAAAAcCNAEABEKAbJIAdXDAFABBBYBDCPDMA" ++
       "BBFAOAbbACbkJCbCBbDBbDBcLBAGHABKIAbSCAAeMBbHAeNCDBIAFCiKBBAcFAAGAAAABHFJBAbVNAPbWDbVAAEA" ++
       "AEAbNILBbFDBBACcDAABCAACcFHBBfVCAMAGDAFACBhPcLbbRMDACLeoBCfKAdRbFvHDeCBbsqDADJbFBdBBkLAC" ++
       "ADAYBEAfUBZRMAbLHYKbTCbVABDBBbMAcOFBBBBLAHAbUAbYAACBBEBAAbPBHAjDABADAbdzRAbcIPPPblKAiRAf" ++
       "SEcmFCABEDbNCDAgIBwADcMEmEBdADcRKbWDeSAcBObOABBJCbWDBBGAcICbJEAHcJALBbZIJDBAdQCBAABFABAg" ++
       "AACHUBcEBCAbKGCEcRFMAAAAANBdGHBCAAWAdFFAADBABjDDFBABbABdGHBAABeBAAABFAAdWAAABDAEjYIABjVB" ++
       "AADAfNDBBDAbFJbNFBDHAIFBCbTMABpPGAFAAdDVBGABABeRFCAABAGAAcTBCAAAnIBKBbZEEAAAWAhxSAFOqyXL" ++
       "CCdrZEcGGboHAcKDdCAbdbJBgyYbTBWuXCQHBGbDDfRCcyCcCDbXHANAVEAOcaHGAQBGABAEdVAgDGoKAcIDtNDj" ++
       "TBbcHGeEGbtciUjF", ""⟩,
   ⟨"nd digit decimalnumber", "",
     "bWJciNJfDJhPJpVJeNJeNJeNJeNJeNJeNJeNJeNJeNJdRJeNJcRJkRJcRJctPJbLJlNJeXJgJJFJgZJdHJfDJFJc" ++
       "aeNJbaBJbLJhPJVJdHJpPJbfmBJccJJdfXJFJbePJeXJcHJfNJkRJnDJeNJoJJdXJFTcXJqFJdXJzLJdHJjLJcRJ" ++
       "qFJyyFJdmBJdHJfDJuNJbkdXJecPbXdnBJqFJtHJjMJbgUJhaZJ", ""⟩,
   ⟨"nl letternumber", "", "irUCdySbIBDfmRAYINCbsyKJbifFcArRAHAfDEmeReG", ""⟩,
   ⟨"no othernumber", "",
     "gWBEABCdmQFoLFePCfCGiIGQIqQJbpKTbrUJsLAcmUACFFJhPPbOAbbXcHcZVyFbDcbGAbtBDfHJbDHAObFJbMOb" ++
       "smHFbhqMbScMDQBnCbAbJDbzFHYGbMIcWEVFgDBBPBbTcLIbZBbDCcWEdZHXHbOGmRFnNbEgBJbPDeHGfDToOTbz" ++
       "WBqNIbhMSbgSUbcpPGbeRWblyETLTeDYibTIbjScGACADcXbSAObkZM", ""⟩,
   ⟨"pc connectorpunctuation", "", "dRAmbUBSAdgaNBXCjEA", ""⟩,
   ⟨"pd dashpunctuation", "",
     "bTAcaTAbYAfkIAbnOAdbCFfhWABAbEBDAbBArDASAeGAczvZBbKAJAgMAflNAmFA", ""⟩,
   ⟨"pe closepunctuation", "",
     "bPAbYAbEAfpCAAAcuNAdrCAcCAOAyJAAAbDAbpTAAAAAAAAAAAAAdBAbFAAAAAAAAApNAAAAAAAAAAAAAAAAAAAA" ++
       "AcLAAAbGAboUAAAAAAAbRAAAAAAAqLAAAAAAAAACAAAAAAABBczrPAiIAbCAAAAAAAAAAAAAAACAQAAAAAgNAbYA" ++
       "bEABABA", ""⟩,
   ⟨"pf finalpunctuation", "", "hFAlwUACAbBAffRAAADABAOACA", ""⟩,
   ⟨"pi initialpunctuation", "", "gPAlxJABBBAYAffRAAADABAOACA", ""⟩,
   ⟨"po otherpunctuation", "",
     "bHCACBAAAABJBCBbAAcPAEANBGAbaZAHArXFbOAcBABABAbRBTBABMAACcVDdXAbQNiYCcBObEAkABJAfJAePAeQ" ++
       "AoZALAoCAdLAJBgLOAAeHAcVEDBeGFgOAxNIbdSAeTCcSBgACACbKFADmABiHBeXGAFgDBJGbBCeTDcGEcJBcLHK" ++
       "AbgBBHHHIBDBCCKAAAJeuBDABeHAfMBDCBABIABAABBJEAJBDAAAMBCqLCcEAhGAbryFBkICdUAJAeKFoPDdHBbN" ++
       "CAAbWBbUAdSMPBeTDeVBPBjOAbfcTGBAVATBBDCCADGCFAABfSCACBAAAABJBCBbAAbJABBpTCzRAbVApXAbcOAh" ++
       "QAbEAkLIbLAeHGcNGdKDbkPEbRDhGGeEBADeVDbVBdADDAMAACdJFeCAlLBABeJEJBAAdZAjPWeACbBMcXAeZCjR" ++
       "AkDCfYAdNHdECAEdOJiGAdQEbPByUBcVMgSAbrREejBBwdUBfCAcMEHAvFClIDmOAbdbNAliKEeiSAbhDB", ""⟩,
   ⟨"ps openpunctuation", "",
     "bOAbXAbEAfpDAAAcuNAdpLACAbLAcCAOAyJAAAbDAbpTAAAAAAAAAAAAAdBAbFAAAAAAAAApNAAAAAAAAAAAAAAA" ++
       "AAAAAAcLAAAbGAboUAAAAAAAYARAAAAAAAqLAAAAAAAAACAAAAAAABAczrSAiGAbCAAAAAAAAAAAAAAACAQAAAAA" ++
       "gNAbXAbEACABA", ""⟩,
   ⟨"sc currencysymbol", "",
     "bKAeUDbwIAeSAtDBtDBGAjKAkCAwIAdqOAdiHbGbzhUAbgmKAeDAfXAiKBCBmcRDcvxDAdrJA", ""⟩,
   ⟨"sk modifiersymbol", "",
     "dQAAAcSAFADACAuADLNEGAAAQeMANBbxHAiuLAACKCMCMCMBghNBbsvQWIBdYBblNANBbekJQbiGAAAgFAdolIE",
     ""⟩,
   ⟨"sm mathsymbol", "",
     "bRAPCcIAAAbSADAbKAbEAbdLAuGCjyGAMAbMCMCfIAbMEFAcPEEBDABABAGAbEBBAAAbEkHbFBdLAbDYbNFsAAIA" ++
       "cBHeGAmXEBbEJPjVfAVcKDbFBjXbVUBFdasPAbfRAACgHAPCcIAAAfAAFDfeEBcyeYAYAbEAYAbEAYAbEAYAbEAY" ++
       "AiuDB", ""⟩,
   ⟨"so othersymbol", "",
     "gKABADAAAblOAkFBeWBhXAJASBjMAtUAoIAeZFAAfBAhYAbOApACOAACBFTAAAAAfCHAFABEDhOBbcXJbbUAbbTA" ++
       "gAbHnOJIIccGBADABJAABFFAAAAAADAKBNAABAAcFBIEBDABABAGAbEBBAAAbEkHHDTBGBdCAbDYbNFcTVKdCcZV" ++
       "hAAIAcBHeGAjNbRbRcLjVtRbVUBFbMBbFAeAiUFnSBbTZAdKLiFZPDAMBLAUBFBmXBDJbFbLIAPbEKbDHAObFJbM" ++
       "OmHjtNcLbguHcCbhGDJBAAwACbfiZPeWAbSCsPACADBMBmAIcEQBCAMCAbUbSclTBwSAesRAdgMHDQbcnHDEAbeu" ++
       "VAfvMjFPqTfZeLcHjLJbMBcHECVBGbDDcIUcNCAhDdIbtWtRcCDbXHANABcoTAehVAeYAbbSbRDdVLOBOAOAbKWg" ++
       "EcDbCMbRDIGBNFfXjQEbbZDQCMCeODdQFLDAOLDcDHJFbNHbDBLDBcJnBLNBMCJEcDGOBKFIGfQAdN", ""⟩,
   ⟨"zl lineseparator", "", "meQA", ""⟩, ⟨"zp paragraphseparator", "", "meRA", ""⟩,
   ⟨"zs spaceseparator", "", "bGAeWAihIAdpMKbJAbUAfxVA", ""⟩]

/-- The category that no character has. -/
def emptyCategories : List String :=
  ["cs", "surrogate"]

end Gridcalc.Log.Pattern
