import Gridcalc.Libraries.Log.Pattern.Property.Row

/-! # Ages and breaks

The values of further properties of the Unicode character database, version 16.0. -/

namespace Gridcalc.Log.Pattern

/-- The versions by which characters were assigned, the last one first. A version has the
characters of the one before it. -/
def ages : List PropertyRow :=
  [⟨"16.0 v160", "15.1",
     "dgPAhcFBbUAkEBcwXCffDBbsqUCLCbjoKbZctVbLCbCHBlTCcCAbsKJAABAAbLAJAABAADAJABHBbcUTbvVbHNJb" ++
       "hFAhyYfxQkzScFeoJcFlyIAxwHjPFqTitNbQDAhcBJDBrMAEAbTAGAUABAIAiQbK", ""⟩,
   ⟨"15.1 v151", "15.0", "seMDtAAkeiPxX", ""⟩,
   ⟨"15.0 v150", "14.0",
     "exNAsFAdtaJCbfYCdiBJbmZQAbOCbBhxCAIbCbvhJAbHAmqZTerGFkAcJbGAbpVbPguBAfUCDEdKAzQCOBbJCKCA" ++
       "ANBJBLANBcthNAbiwRgfF", ""⟩,
   ⟨"14.0 v140", "13.0",
     "ciFAwVbEABFHUARKbhOAbFAeWAdwGAGAIAjEAbaMNeUAbVByKAbbGAeiNAbUAtEKbraSCcyHBNBAAAEXCbftCAoQ" ++
       "PeWAbTBcvFKAOAGABAKAOAGABrIFAbPAIcxWZiVFcXAcgRAfDGbhOPhwXdUwdWdAAJbaeVDAGABlBDliAbTBWIeL" ++
       "vCBeyUbEbhWbEbzCGADABAOfqJCkLApBAdDAgRBbRDJDHCQCFHHGcncOBgeUD", ""⟩,
   ⟨"13.0 v130", "12.1",
     "diCJzCAqNAeTAfaIBgjTAbaTCbhNEkpHJbfdFMcyRDbPBcAAbfUDbgqPAewWbPACBBjTbBoOAfDByZAEBbtLGBAB" ++
       "HABAbDABBLIJckJAbejQAKBkfWsObPIblwTCdOCcIAbyTBbIBqSBdLAdWADBbPBFCbCAgLANDOSGGICMGbOfQAcC" ++
       "bKJcmsIGbhtPhhY", ""⟩,
   ⟨"12.1 v121", "12.0", "tiDA", ""⟩,
   ⟨"12.0 v120", "11.0",
     "esTAuFABABAAFDAGAGBBAMAfkGAfpTAcAAwSAbtzLFBEbjQBbmbFWbrJAxBAbcOHBbTBKgCBbzLbXMAhqTIwjJFD" ++
       "AbUIdLBjcVFprBCQDsaPbSCNBJDBoDcFEAcjYAbkMcIbpDAcbFAbJAiULlCCbUAbWAIAbOFCBJFCHBCbVdFbBDDC" ++
       "ECMF", ""⟩,
   ⟨"11.0 v110", "10.0",
     "caYAbMAdXAuECiCAlLAeOApGAeWAenQAboGbQBCfrLCVYDOwOEbcHAbpyGEcyGAHBmLBbkvBBRAbaSbNHJrLbNHb" ++
       "PoGAeNCtFAlDAbaWAiUcHxKAbbDFABAbKABAFGJlXYbeaOdMjpHEbcjTTeVGjlVcPbsBAceYAiKDoHCbBEBDCAAD" ++
       "XKMJGBbJYdRN", ""⟩,
   ⟨"10.0 v100", "9.0",
     "deMKpKBjRFtRAcFBfyVAjTDbbGAbfYAcyZAyBEbcLAbpxMUblpHCiqPcTHbZBWAExGGABAbRCAABAIHJbfgOAyhJ" ++
       "kYdCpFyaDFbrOBbHBtYLSAHHABYARMbLFcDWdcpClbK", ""⟩,
   ⟨"9.0 v90", "8.0",
     "dhUHVObjOAhXADCAGWCfrYIoFAchADdxBBbtzKAkRAbhqCBbeUbJDbJfaNArGdLAAAAtTMccWIAbSANJbCCbFBVA" ++
       "NbfmUAbEjbOSbdAbgfKGAQBGABAEdiYcWEJDBddARfLAbfXAbOAlNBbGCuZFAHHABLALDObLM", ""⟩,
   ⟨"8.0 v80", "7.0",
     "dhRBbTAuMAnNAjZAcmUABFevNAhUBdyDDbrwUIcoTAjFAbHFmLBxLDLdBbffPBebFSABEEhFBBPBbTyPbYMbYGFb" ++
       "vCDNEgDGAAADAOAKdHAdAAyITlDZCODPerOAiVhNlqPwKcawKKchYzBOEAOjhCCcZBdAEbJHjUAcWEjIBfIAwCId" ++
       "YEcGAcucKinP", ""⟩,
   ⟨"7.0 v70", "6.3",
     "biLAqHHdOBeNAzQAKFcXAePAGAyOAbYAcXAeWAiTJdkQHvBBpKOvWBjCObbGCbfPGbdSAbqHCJZBbFBbHCLAHxTG" ++
       "btoUFjLLKCBBcQAsTbEeUDgTbVDBbfiUGbhCBSAmGbBbIAbVbQoYbNHbZKAfNlYIVJHjNcKHIrVbFbFbMDLfGRGD" ++
       "LGbvIAhZbMdHALAFTKRAbQeJcGEJGCAHBBBVAGABAEBIBBBCIAEGBGCEkGcTHJgJcBBRcBcQKJwJdELArFcEdfHb" ++
       "PhTLEAbalEbEAJDBdRbDBFJcRJJAGAUESbelZeCEMCIGJBHqkXhOBPczVAbFVUBuLLIAcRAVLbKAEDELQGcSAAAg" ++
       "ZADBcKBDGbCRAbOAdHcRBMbVcRJPMCDfJdGbQLDcDHJFbNHbD", ""⟩,
   ⟨"6.3 v63", "6.2", "ciEAjyUD", ""⟩, ⟨"6.2 v62", "6.1", "mkGA", ""⟩,
   ⟨"6.1 v61", "6.0",
     "ccTAeLAzQAAKcCbAtCAbmQBsSAEAbUCebACLFjVHbQDecPAAAbyPBbYAEAcDBhTJbraDAcnMHbIAjHBVAcYBbcNW" ++
       "bdzYBfuTcDFBcrNYGJFcAANcHcUGJbtTcDHJbhkNcQKbUPQbvwHDAbAABAABAAJADAAAAFADAAAAAACABAABAAAA" ++
       "AAAAAABAABDAGADADAAAJAQECAEAQbZByHBblRDhFAPACAAAAAAACAFBDAABDA", ""⟩,
   ⟨"6.0 v60", "5.2",
     "bySBjNAcJAsLbBBAiKBSAFBbAEtLFqQAPASAwADcUBbiNBdeMbZHDtNAzNHbBAbfIKbcBASAADbCADBbBAbIAAAD" ++
       "CIBbZCXANANBcdJANAbpNCbseMBlMBABNJdBAbdTFBFBFIGAGbemSPhrHcZDbDbheDvWbalABymFOBNBOAOdBAAK" ++
       "AAABACACEHAGAJFIAABBAJDBAJcWZABbUIUBgRbGOFAcRCTLbKAEUQOcKAAAgZADCcJRXfQEAPACAAAAAAACAFBD" ++
       "AABDALDKbVcRcFeLcuqLiN", ""⟩,
   ⟨"5.2 v52", "5.1",
     "byQBbcBbTBOhKAcYAFAbIBeXAcfODhKDhFEcPEdDFtRAyFIvNcRgXBbTAcQcKAbCBKFJFNuZbIkFAbaTCfUCcBAx" ++
       "HAbaQBbCCDJASAADXdIAbnGEkRAMBeCGmGAboBLbplRHbxJbVpZdJlZJgJbBdVbCCcZAKDBeXbBDcOXEiPbTBJqo" ++
       "JWDbWnbACfgBVAIhDBmLbFeXcBCbCBbAEHeXcUuObEtScNlvPbpEctnCKEbEBAKAAABACACEHAGAYAABBAJDBAeG" ++
       "AObHNIcqlIgdO", ""⟩,
   ⟨"5.1 v51", "5.0",
     "bhWDBBdIAhAAfJPiREKEbFElPRtCBiNAbIAhXAbCBeDAeDAZBHBTHhGAFAbCBLFCGsWBdSACCcYAEABAGCDFZcLD" ++
       "BdbDAbbWbQCLcRcDCOCbYmSbBgYDdLFnRAfIAdPAcADbxZAUJCDkDAbEDbfEEDbOCEkTCACDFnPbFXDBSbdJAgFT" ++
       "bppNHbzNlNTbFBRHbBfAEBeCeFEeXcQILbLdFKAgDcCINBJBDbfsTCbhOLbZbTeZbCCbWckCZEAcxsIAlrPbRDdV",
     ""⟩,
   ⟨"5.0 v50", "4.1",
     "wGNlMCmYAbPFPDgJAtWcGoTBABbhHBMBfiIcXDbSwKGbYBbcTDdOBcAAxALbbLAkPDbgIGEDmDMGDbulIDEBkZcD" ++
       "bkoLZEAirFbhUfOdUMDcogHRbqTB", ""⟩,
   ⟨"4.1 v41", "4.0",
     "vVKkREgCDjLBgNAbHCcOARAcFFjGbDuGAdBAsSAbUAbmMBlIBAAkFAcKAcKAbMAbEAbEAbEAOAbMAWBbEZcgBbPF" ++
       "ZFJDBbFbBBBbgLdJzGBAGbWEbCDcAAdBAOAyTKvZAdWBRKEPkJGbgGFjBbUAbUbGeCNbSJcBIAPWIGAGAGAGAGAG" ++
       "AGAGbGXDBbjTPgRAbpiSVctNWiYbRbfdZeBbfPJbeZcWuMbJDNciRDABEHACAbADCDIHIcxpUcRbqZB", ""⟩,
   ⟨"4.0 v40", "3.2",
     "uZARCeOBcKQdBHECfUEtVDIIcLCfSBOAbSCbCCqTAhBAcOAAAfFAdFCMAcOAcGAeYHhKBefMARJkBbCCLDLDACbP" ++
       "BEeCbFbdNeDbcOBiVAzIBlPAkPBeLHNBbqZNcrMBbWAbQBcZDgKDdUBbEAjtNcLcoqUAcUBqWLAZASABAOBNbHeS" ++
       "ECDbSCIwDbDAAfDBbLdBBJbgVFBAAbRABCABAcyuHdInXAbtkcZjF", ""⟩,
   ⟨"3.2 v32", "3.1",
     "uYAlPASMdZBbBAfQBcEBBBBBbWPnLBmIAdnGBchIMAGKWITLMACABdiWAFEDAGEMAcJBbXGdDOgLLjHNeTAbDbZk" ++
       "XTfUJdJHVBdLLBJiNNdLbBDPjVtRbzMCdIBHBdPAjFPdCOdCObrdHBPALACAbgiZcGbjCACPcABbRAjAB", ""⟩,
   ⟨"3.1 v31", "3.0",
     "bmYBdqqBbFbxVbEADLbAgYbLBbLczdPjLJbMCgXuZdGAcSABBABBBDALAAADABAcMADBHAGAbBADAEAACGAmZDlD" ++
       "DbXpdVcleSbetCuVbpcqSAbDdR", ""⟩,
   ⟨"3.0 v30", "2.1",
     "tIDbDHBReMEbWAJEdIISAeLACAAAAAAAbDALAcNALAbPBBDdNBfZAhRCdTBEAOAbPEANAbDCbAcAbWcfGBARCXAI" ++
       "AABGCADFAAAHRCoIAbQAWCGAACAOBAbVbHAEABAGCDFZqFGAcKAAADBGAAADBbMAAADBbEAAADBGAAADBGAGAWAb" ++
       "EAAADBGAbMASFbBbIdGLyFIbCCdCfMdOCJVOAJFdJHbPcwAAXFdQCbXBdGBcTAdYIkIAeQAAbDfHBrOHbGAdHBpH" ++
       "jVccDZAdKLiFZLcHCCAnOXwLjtDbfeFbsUCRBPALACAAbgsBAbvUC", ""⟩,
   ⟨"2.1 v21", "2.0", "mjSAdgoSA", ""⟩,
   ⟨"2.0 v20", "1.1",
     "ccVQAMTAdmWcTAbGGbADFAAAUCGAAfqMAuGAcatVqnReifXBdsyNBdsyNBdsyNBdsyNBdsyNBdsyNBdsyNBdsyNB" ++
       "dsyNBdsyNBdsyNBdsyNBdsyNhlxH", ""⟩,
   ⟨"1.1 v11", "",
     "AtHDbDcDdKGbUAJVcRZBRBDACAEGAAATAbRAGCAAAAAAAARMLAcNALAbOIcABBBBCbBBHBBcCbLBGAbMAAbLJAIL" ++
       "bAEEWANACAAZESMNBcTBEAOAbDBJtYCAcABRBECYPCAHBBBVAGAACDBAAGBBBCIADBAEBUGABFDBBVAGABABABBA" ++
       "AEDBBCKDAAGOLCAGAAACAVAGABAEBJACACBAOAEJQCAHBBBVAGABBDBHCBBCHBDBACDKQBAFCCADCBAAABCBCCCH" ++
       "ACDECCADIAOLNCAHACAWAJAEDGACADGBIBDJRBAHACAWAJAEDGACADGBGAABDJRBAHACAWAPDFBCADIAHBDJfOcF" ++
       "DbCbKBAABBAABAFDAGACAAAABBAMACBEAAAFBJBBrHbLJbMDADdLEcPEdDeoJfYEdLFVBFBbLBFBHAAAAAAAbEBc" ++
       "AAOANBFASBCAIAbUAWbIGCbAQKbKRbDcEZbVMdMUjHNAAeQfCbKbAKUfIUfTJdBPTFdHfODADBbBAbIAAADCAAGB" ++
       "GNbECXANddGcDGAAdFDFBdPFbNDdPAPdRbCCbJbBbBCbXOLDbUAeODdUBbEjwAbexXyjPjxTiBGLEFYAEAAABABA" ++
       "eDbGoAPcLBcBbNLbJDLUDJASADDCAAAfEBAAdPBdPCFBFBFBCCGAGNC", ""⟩]

/-- The values of `Grapheme_Cluster_Break`. -/
def graphemeBreaks : List PropertyRow :=
  [⟨"cr", "", "NA", ""⟩,
   ⟨"cn control", "cc", "gRAcbLAguQAdaPABBXGbWPdghIAjFLttZPbzqTDhwWHbtkzKbFdReXjFfiL", "KABA"⟩,
   ⟨"ex extend", "grext", "hhiXE", ""⟩, ⟨"l", "", "glKdRcfoPbC", ""⟩,
   ⟨"lf", "", "KA", ""⟩,
   ⟨"lv", "",
     "cndOAbAAbAAbAAbAAbAAbAAbAAbAAbAAbAAbAAbAAbAAbAAbAAbAAbAAbAAbAAbAAbAAbAAbAAbAAbAAbAAbAAbA" ++
       "AbAAbAAbAAbAAbAAbAAbAAbAAbAAbAAbAAbAAbAAbAAbAAbAAbAAbAAbAAbAAbAAbAAbAAbAAbAAbAAbAAbAAbAA" ++
       "bAAbAAbAAbAAbAAbAAbAAbAAbAAbAAbAAbAAbAAbAAbAAbAAbAAbAAbAAbAAbAAbAAbAAbAAbAAbAAbAAbAAbAAb" ++
       "AAbAAbAAbAAbAAbAAbAAbAAbAAbAAbAAbAAbAAbAAbAAbAAbAAbAAbAAbAAbAAbAAbAAbAAbAAbAAbAAbAAbAAbA" ++
       "AbAAbAAbAAbAAbAAbAAbAAbAAbAAbAAbAAbAAbAAbAAbAAbAAbAAbAAbAAbAAbAAbAAbAAbAAbAAbAAbAAbAAbAA" ++
       "bAAbAAbAAbAAbAAbAAbAAbAAbAAbAAbAAbAAbAAbAAbAAbAAbAAbAAbAAbAAbAAbAAbAAbAAbAAbAAbAAbAAbAAb" ++
       "AAbAAbAAbAAbAAbAAbAAbAAbAAbAAbAAbAAbAAbAAbAAbAAbAAbAAbAAbAAbAAbAAbAAbAAbAAbAAbAAbAAbAAbA" ++
       "AbAAbAAbAAbAAbAAbAAbAAbAAbAAbAAbAAbAAbAAbAAbAAbAAbAAbAAbAAbAAbAAbAAbAAbAAbAAbAAbAAbAAbAA" ++
       "bAAbAAbAAbAAbAAbAAbAAbAAbAAbAAbAAbAAbAAbAAbAAbAAbAAbAAbAAbAAbAAbAAbAAbAAbAAbAAbAAbAAbAAb" ++
       "AAbAAbAAbAAbAAbAAbAAbAAbAAbAAbAAbAAbAAbAAbAAbAAbAAbAAbAAbAAbAAbAAbAAbAAbAAbAAbAAbAAbAAbA" ++
       "AbAAbAAbAAbAAbAAbAAbAAbAAbAAbAAbAAbAAbAAbAAbAAbAAbAAbAAbAAbAAbAAbAAbAAbAAbAAbAAbAAbAAbAA" ++
       "bAAbAAbAAbAAbAAbAAbAAbAAbAAbAAbAAbAAbAAbAAbAAbAAbAAbAAbAAbAAbAAbAAbAAbAAbAAbAAbAAbAAbAAb" ++
       "AAbAAbAAbAAbAAbAAbAAbAAbAAbAAbAAbAAbAAbAAbAAbAAbAAbAAbAAbAAbAAbAAbAAbAAbAAbAAbAAbAAbAAbA" ++
       "AbAAbAAbAAbAAbAAbAAbAAbAAbAAbAAbAAbAAbAAbAAbAAbAAbAAbAA", ""⟩,
   ⟨"lvt", "",
     "cndPbAAbAAbAAbAAbAAbAAbAAbAAbAAbAAbAAbAAbAAbAAbAAbAAbAAbAAbAAbAAbAAbAAbAAbAAbAAbAAbAAbAA" ++
       "bAAbAAbAAbAAbAAbAAbAAbAAbAAbAAbAAbAAbAAbAAbAAbAAbAAbAAbAAbAAbAAbAAbAAbAAbAAbAAbAAbAAbAAb" ++
       "AAbAAbAAbAAbAAbAAbAAbAAbAAbAAbAAbAAbAAbAAbAAbAAbAAbAAbAAbAAbAAbAAbAAbAAbAAbAAbAAbAAbAAbA" ++
       "AbAAbAAbAAbAAbAAbAAbAAbAAbAAbAAbAAbAAbAAbAAbAAbAAbAAbAAbAAbAAbAAbAAbAAbAAbAAbAAbAAbAAbAA" ++
       "bAAbAAbAAbAAbAAbAAbAAbAAbAAbAAbAAbAAbAAbAAbAAbAAbAAbAAbAAbAAbAAbAAbAAbAAbAAbAAbAAbAAbAAb" ++
       "AAbAAbAAbAAbAAbAAbAAbAAbAAbAAbAAbAAbAAbAAbAAbAAbAAbAAbAAbAAbAAbAAbAAbAAbAAbAAbAAbAAbAAbA" ++
       "AbAAbAAbAAbAAbAAbAAbAAbAAbAAbAAbAAbAAbAAbAAbAAbAAbAAbAAbAAbAAbAAbAAbAAbAAbAAbAAbAAbAAbAA" ++
       "bAAbAAbAAbAAbAAbAAbAAbAAbAAbAAbAAbAAbAAbAAbAAbAAbAAbAAbAAbAAbAAbAAbAAbAAbAAbAAbAAbAAbAAb" ++
       "AAbAAbAAbAAbAAbAAbAAbAAbAAbAAbAAbAAbAAbAAbAAbAAbAAbAAbAAbAAbAAbAAbAAbAAbAAbAAbAAbAAbAAbA" ++
       "AbAAbAAbAAbAAbAAbAAbAAbAAbAAbAAbAAbAAbAAbAAbAAbAAbAAbAAbAAbAAbAAbAAbAAbAAbAAbAAbAAbAAbAA" ++
       "bAAbAAbAAbAAbAAbAAbAAbAAbAAbAAbAAbAAbAAbAAbAAbAAbAAbAAbAAbAAbAAbAAbAAbAAbAAbAAbAAbAAbAAb" ++
       "AAbAAbAAbAAbAAbAAbAAbAAbAAbAAbAAbAAbAAbAAbAAbAAbAAbAAbAAbAAbAAbAAbAAbAAbAAbAAbAAbAAbAAbA" ++
       "AbAAbAAbAAbAAbAAbAAbAAbAAbAAbAAbAAbAAbAAbAAbAAbAAbAAbAAbAAbAAbAAbAAbAAbAAbAAbAAbAAbAAbAA" ++
       "bAAbAAbAAbAAbAAbAAbAAbAAbAAbAAbAAbAAbAAbAAbAAbAAbAAbAAbA", ""⟩,
   ⟨"pp prepend", "", "chCFiGAbWAoTBdBAbrMAdugJAOAjJBuEAcbKAAAjNAcUFbaXArAA", ""⟩,
   ⟨"ri regionalindicator", "ri", "", ""⟩,
   ⟨"sm spacingmark", "mc",
     "fjVAeWA",
     "drYAXAnTAXAdXAXAiXAAADBABIBdYAXAeOAOAwOBKAbOCBGUACFBAJCclRAbDAbfFAABhZAEAAAEBdWAcSBhrDBb" ++
       "twSAeDAhDAAAbncRAeLAkDANAIAdRAIABAACEAiPALAjGAkBAeABuFALAchEAbeoJBbkxMBFF"⟩,
   ⟨"t", "", "grWdJcwxMbW", ""⟩, ⟨"v", "", "gpCcTcwzVWcerBACD", ""⟩,
   ⟨"zwj", "", "mdPA", ""⟩]

/-- The values of `Word_Break`. -/
def wordBreaks : List PropertyRow :=
  [⟨"le aletter", "cased nl",
     "rBADDhZAbJGBVFBEbAeLAsPDAAbQAdZAbRbQbIBAdUAAOBGBJCBAOBAbDbCdKKAXbGIBDAEVDAIACAWYGKEXAFQb" ++
       "PcFcBCARAGJOPDHBBBVAGAACDCAPAMBACNBJAHFDBBVAGABABABbEDAASCPIACAVAGABAECARAOBWAKHBBBVAGAB" ++
       "AECAbDBACOAQAAFCCADCBAAABCBCCCLVAbZHACAWAPCAZCBABBbDADHACAWAJAECAbEBABOBQIACAbOBAPAECHCX" ++
       "FERCXAIAABGmAAcKHAbJbAEoGmQADBGAAADBbOADBbGADBGAAADBOAcEADBcObKPeIxVBQAZEcWFHGRMSNRNMACg" ++
       "SdKGEBbHAAEcRJbEiQWjDbUQHcBbDMBJbRZbJbOCJbJeCDAFABCAbpPDenUcDGAPWIGAGAGAGAGAGAGAGdBAsAAc" ++
       "ABhRbQAdPQbFbptNbsUcObTBkICPJBcNAPAbFcRbHZdXCDAdYACGACADAWbCbZNbXcJFCAABKbBJWYbCGbUbBAbV" ++
       "bOWCAHfRKGCLFBFBFIGAGbRAdVbIbCqnRLWDbWnjVdTbGnYRcLBcBbNLeLEAfEgGbECFBFBFBCbILAZASABAOBNb" ++
       "HeSoYbCCbWbUbFMTAHFbLJbDBbJDHeXcZdTbNHbZdNbZLlYIVJHYBeUFBAAbRABCABWJWIbEcMSABJVJZcRcDFBc" ++
       "LAODACAbCbPbCCbCbIHAbBbAcBJVJSMReFcUhAbJbLFbEAkLbPFBPCcGbCJAHVbPRbTUbAWLcAcEBBAMbSbFYZbJ" ++
       "bCABAHbICALbVNDUAAAbIRAYSBcKGAAADAOAJGbUbLHBBBVAGABAECARALEbDJAABAAbLAAYAAAbRcARDTCbDbVT" ++
       "BAAhBbUbODbJbVTAcGbQMAmObRiCHBABHABAXOAAAdPHBbMPAAAbBAJbNGAUAKbTSARcUhQbGbEIAbKQAbWbDeHG" ++
       "ABAbLUAYFABAbFNAmOSOAAMAbHeTAdAbjLiVhNdxJdSObpFQFYfxQEwKkdCbDcpTvWGbEQdAQbDRbVPDbEUESqPb" ++
       "SpMcWEAcNMcLBAAbcvJeCEMCIGJnbBAtGbSJGPAmIbDRbRsPbBiTbDBAtAGADABAOAhOfDAbuHDAbAABAABAAJAD" ++
       "AAAAFADAAAAAACABAABAAAAAAAAAABAABDAGADADAAAJAQECAEAQ",
     "bgFAqyQAYINC"⟩,
   ⟨"cr", "", "NA", ""⟩, ⟨"dq doublequote", "", "bIA", ""⟩,
   ⟨"extend", "m grext", "hhiXE", ""⟩,
   ⟨"ex extendnumlet", "pc", "meXA", ""⟩,
   ⟨"fo format", "cf", "", "chCFiGAbWAoTBdBAitZCdndUAOAbwfzTdR"⟩,
   ⟨"hl hebrewletter", "", "cfGbADDdovXAAJAMAEAAABABAJ", ""⟩,
   ⟨"ka katakana", "", "sgNEdWBCdMADjFPhZbUAdJczhDcDcouBDAGABAAlACbXAND", ""⟩,
   ⟨"lf", "", "KA", ""⟩, ⟨"ml midletter", "", "cGAeTAbbQAsCAfRAjxXAdgbAAcMAhNA", ""⟩,
   ⟨"mn midnum", "", "bSANAbgBAuBAeZBdPApEAjfEAdgcGACAhAANA", ""⟩,
   ⟨"mb midnumlet", "", "bUAmcEBJAdgdOAgXAFA", ""⟩, ⟨"nl newline", "", "LBePAlzLB", ""⟩,
   ⟨"nu numeric", "nd", "chCFdWAeIAqRBdBAglAAdpmVAOA", ""⟩,
   ⟨"ri regionalindicator", "ri", "", ""⟩, ⟨"sq singlequote", "", "bNA", ""⟩,
   ⟨"wsegspace", "zs", "", "gEAlxDAbMA"⟩, ⟨"zwj", "", "mdPA", ""⟩]

/-- The values of `Sentence_Break`. -/
def sentenceBreaks : List PropertyRow :=
  [⟨"at aterm", "", "bUAmcQAdgdOAhEA", ""⟩, ⟨"cr", "", "NA", ""⟩,
   ⟨"cl close", "pe ps qmark", "oxNFcnENNBBBgqvBC", "dsoWADA"⟩,
   ⟨"ex extend", "m grext", "mdPA", ""⟩,
   ⟨"fo format", "cf", "", "chCFiGAqRBdBAiuABdndUAOAbwfzTdR"⟩, ⟨"lf", "", "KA", ""⟩,
   ⟨"lo lower", "lower", "", "bgFAfdHbQBC"⟩,
   ⟨"nu numeric", "nd", "chCFdWBeHAqRBdBAglAAdpmVAOA", ""⟩,
   ⟨"le oletter", "lo lm nl",
     "cgPAecXbQBCejVbQBC",
     "gOAOAtGIGBbDEfSAfcYAepYcKMAbHbKbaMAMAPMhMbFeeDBbugJBiBAeYCCBbhHDIAbfxBBczNABCAbPAIddzGcJ"⟩,
   ⟨"sc scontinue", "", "bSBLBbgBAsJAgRBsVAgbWAEAdbDBgaTAdaaVBABbBBbCBBBBAJAgLBLBcTA", ""⟩,
   ⟨"st sterm", "sterm", "", "bUAmcQAdgdOAhEA"⟩, ⟨"se sep", "", "fDAlzLB", ""⟩,
   ⟨"sp", "zs", "JAAB", ""⟩, ⟨"up upper", "upper lt", "", "kvGbQBC"⟩]

end Gridcalc.Log.Pattern
