import Gridcalc.Libraries.Log.Pattern.Property.Row

/-! # Binary properties

The properties of the Unicode character database, version 16.0, that a character has or has
not. -/

namespace Gridcalc.Log.Pattern

/-- The properties for which there is a set. Their parts are further on, or categories. -/
def binaryProperties : List PropertyRow :=
  [⟨"space wspace whitespace", "z", "JEeOA", ""⟩,
   ⟨"vs variationselector", "", "jcTCAAdjbZPbwnkXjF", ""⟩,
   ⟨"uideo unifiedideograph", "ideo",
     "",
     "seWBYINCcyaUkJBAAABJAAAABBCcPBeBbsiJAbAjbZHbvPbOJnuKpFetcDuV"⟩,
   ⟨"term terminalpunctuation", "sterm",
     "bSAMBbgBAHAvYAcTANAiWHAAjAAcCFBAACbGAcgWBgPADFbqJAADbiPCiXACAbMAABBAbgTAiOCgvGAJAABqQAbs" ++
       "hVAkJAiVCbbRAkSAbfpNBBBgZAMBcTAbpPAbVAbsNAhQArVFcPFdKDbtZEsXAuJALBnVBbvUBpZAbSAdaREbauTA" ++
       "bhCAbowSAAB", ""⟩,
   ⟨"sd softdotted", "",
     "eBBhNAkUAbDAbZATAmHAdTAAAjmMAbYAMACAfBAgAAqEAiFBegFAgelGBbXBbXBbXBbXBbXBbXBbXBbXBbXBbXBb" ++
       "XBbXBdfXAlSBZA", ""⟩,
   ⟨"sterm sentenceterminal", "",
     "bHALAPAcaAAfQCgXAbQCjLAcIAAACBlGBcpVBbeJADBbdSAhPBgABbSAEAmBBnPDgFBJBBBbCChEBcMBbjVAWBIC" ++
       "euWClTAMAVBqMAbshVAkJBiSACAoRBdHBdQAfVBfQCfNBjOAbfcVABBcGACBgMALAPAcMAedVBbxCEbRDhGBeMDe" ++
       "WCeYBFAPBdJBABeDAlLBeMBoIBEOeABjOCtWAAAjQBdIBqDBbaPBcVBbcmABfCAcMBKAvGBlJAbdoFAliLA", ""⟩,
   ⟨"ri regionalindicator", "", "hgoKZ", ""⟩, ⟨"radical", "", "rpWZAdKLiF", ""⟩,
   ⟨"qmark quotationmark", "", "bIADAfAAOAlwTHYBfiCArODMCdabODhGADAdLB", ""⟩,
   ⟨"pcm prependedconcatenationmark", "", "chCFiGAbWAoTBdBAdvxXAOA", ""⟩,
   ⟨"odi otherdefaultignorablecodepoint", "",
     "bgPAfiKBckGBdhMAglHAdacOAdAIbwmiGAAbDdReXjFfiL", ""⟩,
   ⟨"nchar noncharactercodepoint", "",
     "dsdCbFuFBdsyNBdsyNBdsyNBdsyNBdsyNBdsyNBdsyNBdsyNBdsyNBdsyNBdsyNBdsyNBdsyNBdsyNBdsyNBdsyN" ++
       "B", ""⟩,
   ⟨"mcm modifiercombiningmark", "", "ckIBBAfAAFACBsMBACCAbEA", ""⟩,
   ⟨"math", "omath sm", "", ""⟩,
   ⟨"loe logicalorderexception", "", "fkIEeSEedRCBAccxLBBAAB", ""⟩,
   ⟨"joinc joincontrol", "", "mdOB", ""⟩,
   ⟨"ideo ideographic", "",
     "seWBYINCblCjtNcLbfbJbhsHoBBeBbsiJAbAjbZHbvPbOJnuKpFbdeHclfBbFgdTFiNBinPNlbKOxXdqVuVcfXhh" ++
       "YEgfF", ""⟩,
   ⟨"idcompatmathstart", "idcompatmathcontinue", "", "gWBEAmaFACKAO"⟩,
   ⟨"idcompatmathcontinue", "", "gWBEAmaFACKAOoGADAVAgjjDAYAbEAYAbEAYAbEAYAbEAYA", ""⟩,
   ⟨"idsu idsunaryoperator", "", "seOB", ""⟩, ⟨"idst idstrinaryoperator", "", "seCB", ""⟩,
   ⟨"idsb idsbinaryoperator", "", "seABBJtCA", ""⟩,
   ⟨"hyphen", "", "bTAeWAbvVAgzYAdbCBfiAAbcKAczuKAgMAdIA", ""⟩,
   ⟨"hex hexdigit", "ahex", "dspKJGFZF", ""⟩,
   ⟨"grlink graphemelink", "",
     "dnPAeWAeWAeWAeWAeWAeWAeWAeEBPAeTAeGAeWAhSAgXBcpKBbDAgAAzCAiSAdWBcRBgqSAbukJAbKAfUAfLAeDA" ++
       "lWAjLAbjsQAchHAbOANAcEAeQBfIAeLAgXAdTAeXCeIAeWAjRAeWAeNAeLAkIAjYBgEAdEARAdCAqEAjZBdCAqIB" ++
       "yzBA", ""⟩,
   ⟨"grbase graphemebase", "s p n mc zs l",
     "",
     "drYAXAnTAXAdXAXAiXAAADBABIBdYAXAeOAOAdmQAbDAbnJAEAAAEBdWAcSBhrDBbtwSAeDAbgnKBgwLAeLAkDAN" ++
       "AIAdRAIABAACEAiPALAjGAkBAyIALAchEAbeoJBbkxMBFF"⟩,
   ⟨"ext extender", "",
     "hBAuPBbhTAqYAyFAfGAdKAbcXAeWAdnEAcDAxMApHAcPAhkIAbQEdYBdOCbqbTAcgRAbkZAVAfGAeDAUBbfzUAdb" ++
       "JBcfAAbAADAbvAAlGAeLBtDCbvIAbeoEBbtJBAAbqxZBbuEAbgTC", ""⟩,
   ⟨"extpict extendedpictographic", "",
     "gNADAlyQALAiHAVAdLFOBoCBLAdQAcRAYKDChQAiWBJAIAcFDAFALAeJJeNBKAAAAFACAFAJBOABADAAADCAAKEb" ++
       "SCIANANAoHBrUCSBbYADAbvTALAxCAAAgmrLjVMCbEAcHFLBNABJRcEbAOJATABIADIqREmFHkFbVeXeLLdGbQLD" ++
       "cDHJFbNHbDdDLbUAJAqYjVbnH", ""⟩,
   ⟨"epres emojipresentation", "",
     "nhQBhWDCABAuABUBbXLbQASAMAHBQBEBHAEAUAGBAADABAGADBbBAbIAAADCAAcICXANAbhABbYADAgplDAhTAhH" ++
       "ABJcWZAAXATABEACUBgRbGLIAcRAVLbQDELQCACcSAAAhEBcKMDAXRAZBMAdHdGbVcRFACCBCDDKBGIiSLDAkWbU" ++
       "AJAhCeHMCJEcDGOBKFI", ""⟩,
   ⟨"ebase emojimodifierbase", "",
     "olHAiKAPDgsjUAcHCBABCeMBBKUSCADCACGAAAXAhSBDAUADBgRCCEdEAPCIAKAwCABAHHFAIJBCcDAcIBABAAQC" ++
       "AMiUCbPI", ""⟩,
   ⟨"emod emojimodifier", "", "hhiXE", ""⟩,
   ⟨"ecomp emojicomponent", "", "bJAFAEJmbIAiEAdftQAdoiVZtMEcdZDbsvuPdR", ""⟩,
   ⟨"dia diacritic", "sk",
     "hBAtJRDLNEGAAAQdAAHEFQAEAkDEiAAcCQAbAAAABAAfDHDBfDBDBCCcObAdMKcFKbHBeVHbOJPbBcIAPACDbBAc" ++
       "VAPAeFAPAeFAPAbUCcHAPAGAeOAeFAPAeFAPAeEBPAeTAeGALFAAeCAMEcWBbAAAAAADBcNCABcJAeHAABbNBDEY" ++
       "GAAJBbbCCbkLBbDAfRKIAnIClFATHBAbVOBKdZAOAbLIcBBcFAKBcNBcLFdDYDAFABCbXcKdKLbKKfrACmEAtLFe" ++
       "ABdSAbsmJALBAAbBBdDBbKIdZAeGBLAbKAfUAbARcEDbJAdQALAbJAfSCcMDbYAdWDIAeZBbdzRAbdOPmHAbSBbf" ++
       "ZAbtMFAbPAIyMCDAgIBvYFbLAZEpICcRKbWDhJAbOAcTBePBcJAcXAICdZBgVBdBBPAXGCEdKCABMBdQACAeSBjQ" ++
       "BeVAeNBeKAkIBjXBDAfZAdEARAdCAqEAjXAABdCAqIBWAhxZOqzOAdrZEcGGvRBuZQdBBygBDAGABltGbTBWuXCC" ++
       "FHHBGbDDfmVcJhLGoKAcIDbdLBbcHGeECAC",
     "dgAAdocEQdpzZE"⟩,
   ⟨"dep deprecated", "", "mRAbyUAdkSAAAdcIBdiIFbaUBbzryJA", ""⟩,
   ⟨"di defaultignorablecodepoint", "",
     "gRAzWAbbNAegVBckGBdGEdaOEZEbWPgkXAczmOPjEAgDAdAIctlMDhwWHbtkzKgbN", ""⟩,
   ⟨"dash", "pd", "mgHAbMAOAoZA", ""⟩, ⟨"cwcm changeswhencasemapped", "cwu cwl", "", ""⟩,
   ⟨"cwcf changeswhencasefolded", "cwl",
     "gZAbOAeAAcAArKAeTAMBCBYBCApKAfmDFdfTIuIBiTHHHHHJCBAJCBAbPCBAcavFdBbeaHGLE",
     "hlGdH"⟩,
   ⟨"ci caseignorable", "mn lm sk cf me", "bNAFAKAeTAbbQAsCAfRAjxIBJABAdgbAAcJABAgUAFAKA", ""⟩,
   ⟨"bidim bidimirrored", "pe ps",
     "cIAAAeDAOAlyABkAAhJDCFCACBCDADAAAADIEAAREDIBAAAHAbFBDEAIBBSEBIEBBDXBPbFBbtLABBCBACEDECCD" ++
       "qUFANHAGFCADEABFADAACBBJFPSADBAAABAADEBFCXBKBDDABBBDbQBHAbNEAAACEECDACEAAjVAtUDCBABNBBBd" ++
       "awNBgZAAAddsDAcEAcEAcEAcEA",
     "meCACAfjEAsFCczrPBiGBbBPBB"⟩,
   ⟨"bidic bidicontrol", "", "ciEAjvKBZEcCD", ""⟩,
   ⟨"ahex asciihexdigit", "", "bWJGFZF", ""⟩,
   ⟨"cwt changeswhentitlecased", "cwu", "rKABABAbLA", "rLABABAbLAfqIbQBCfnBHHHHHLAOAbUA"⟩,
   ⟨"cwu changeswhenuppercased", "ll lt",
     "bgFAlkZPbgPZ",
     "mAAdFAbBBNACAdTARFbAABAAABCBADAEBAABBAGABAABCFEAAAHBQmTAnQAbMAixAbRcKMBCAPALjWBAAxTACBCA" ++
       "bAADADABBHDefUABABEdZAbuiCBcKHUAFAYAbIAAAbJAbfObIAGEIeijGZZGARZZZDAAAGAKZZZZZZZZZZZZZZZZ" ++
       "ZbBbBYAFZYAFZYAFZYAFZYAFAAcsXJATFF"⟩,
   ⟨"cwl changeswhenlowercased", "lu lt",
     "mqQPbgFZ",
     "blQClbGADACCBCBACEFACACBBBAAJBEAgiqJZZZZZZAABBABBBDAHZZZBADBHAGbABADAEAACGbAZZZZZZZZZZZb" ++
       "DYbGYbGYbGYbGYbGA"⟩,
   ⟨"emoji", "",
     "bJAFAEJeGADAlyQALAiHAVAdLFOBoCBLAgJAYKDChQAiWBJAIAcFDAEIABABBBADABAABBACACBHCEAAAELKBBAA" ++
       "BAARABBRFAAABCBEABBDBKBEBBAEBAAABTBEFADBADABABFAABAAAAAFACAFAJBOABADAAADCAAKBbVCIANANAoH" ++
       "BrUCSBbYADAbvTALAxCAAAgmrPAhTAgDBLBNABJcWZABWATABIUBgRbHBeHBBACBdEBCAkCAcKKFAXGBBHLABDBA" ++
       "DBMBBAHBIAECLCHCBAAADAFACAFdHbVcREHBCDJCAABCABJiSLDAkWbUAJAhCeHMCJEcDGOBKFI", ""⟩,
   ⟨"xidc xidcontinue", "idc", "", "biGArcHBczeEFpPBeLAAAAAAAAAAAAAAA"⟩,
   ⟨"xids xidstart", "ids", "", "biGAebNAeWAmvUBczeEFpPBeLAAAAAAAAAAAAAAAlAB"⟩,
   ⟨"idc idcontinue", "mc mn nd pc ids", "hBAbbQAgaIIclBAciYBgkQAdaeIA", ""⟩,
   ⟨"ids idstart", "l nl", "jhLBdgIAUAfvVB", "rmTA"⟩,
   ⟨"grext graphemeextend", "mn ogrext me", "", ""⟩, ⟨"cased", "lc lower upper", "", ""⟩,
   ⟨"upper uppercase", "lu oupper", "", ""⟩, ⟨"lower lowercase", "ll olower", "", ""⟩,
   ⟨"alpha alphabetic", "l oalpha nl", "", ""⟩,
   ⟨"patws patternwhitespace", "", "JERAdVAlyLBXB", ""⟩,
   ⟨"patsyn patternsyntax", "",
     "bHOJGZDAAZDbHGAAABAAABDADACAWAbEAluDXHOBSAJlSbbRgDyFbDbrNtReXoUCDYOAczqYBkAB", ""⟩,
   ⟨"oidc otheridcontinue", "", "hBAbbQAgaIIclBAciYBgkQAdaeIA", ""⟩,
   ⟨"oids otheridstart", "", "jhLBdgIAUAfvVB", ""⟩,
   ⟨"omath othermath", "",
     "dQAbhWCBAZBBBkqXAbACKAbFDXBNBcMMDACBDERADABJAACEFACBBBACAFCDEEcWEBDABABAAAEBBDBDRBBAAAGA" ++
       "AFBlDDgLBAAXAQArCBLIEEEBBBCENAAABFXBcEAAAbCDIBnDBbEJpMVcKDbFBdclEAAADAiCAAAdcoUdGAcSABBA" ++
       "BBBDALAAAGAcMADBHAGAbBADAEAACGAnBBYAYAbEAYAbEAYAbEAYAbEAYAHBbXiiPDAbAABAABAAJADAAAAFADAA" ++
       "AAAACABAABAAAAAAAAAABAABDAGADADAAAJAQECAEAQ", ""⟩,
   ⟨"ogrext othergraphemeextend", "",
     "drYAXAnTAXAdXAXAiXAAADBABIBdYAXAeOAOAdmQAbDAbnJAEAAAEBdWAcSBboHAgcUBbtwSAeDAbgnKBgwLAeLA" ++
       "kDANAIAdRAIABAACEAiPALAjGAkBAyIALAchEAbeoJBbkxMBFFbtlaYdR", ""⟩,
   ⟨"oupper otheruppercase", "", "mqQPbgFZgsiXZFZFZ", ""⟩,
   ⟨"olower otherlowercase", "",
     "gOAOAtGIGBbDEdRAbZAfcYAepYcKMAbHbKbaMAMAPMiCPbgPZcwNBbugJBiBAeYCCBbhHDIAbiwRABCAbPAIddzG" ++
       "cJ", ""⟩,
   ⟨"oalpha otheralphabetic", "m",
     "nxMbZgshXZFZFZ",
     "bdOcQAbClBGkCbEgLAfDBICdEKgDIIAZBSAbQCcHHbPJLBHFcXAPACDdYAPAbVAcIAPAeFAPAbUCcHAPAGAeOAeF" ++
       "APAeFAPAeEBPAeTAeTFAAeCAMEAAcUBbAAAAAADBcPAABcJAeHAABbeVCbkLBbDAeWBSKIAbSCAAlKClFATHBAbV" ++
       "OBKdZAOAbLIcBBcFAKBcOAfVCAUDAFABChPSbHKbbRbGeoBCfKAbaFFeABbsqDDIBeJBkPAbKAfUAbARcECbKAdQ" ++
       "ALAjTAAAbZAjKBbfcBPPPblKAiRAcuGCDAgIBySDpICcRKbWDhJAbOANAcEBePBcJAcXAHDdZBgVBdBBPAXGCEdK" ++
       "CAANBdQACAWAdUBjQBeVAeNBeKAkIBjXBDAfZAdDBRAdBBqEAjXAABdCAqIBWAhxSAFOqzOAdrZEcGGbuAAbdbJA" ++
       "gyZbTBWuVECFHHBGbDDfRCcyCcCDbXHANAVEAOclZGoKAcIDtNDjTBbcHGeECACbtciUjF"⟩]

/-- The names of all other properties. -/
def otherProperties : List String :=
  ["age", "bc", "bidiclass", "bmg", "bidimirroringglyph", "bpb", "bidipairedbracket", "bpt",
   "bidipairedbrackettype", "blk", "block", "ccc", "canonicalcombiningclass", "cf",
   "casefolding", "cwkcf", "changeswhennfkccasefolded", "ce", "compositionexclusion", "dm",
   "decompositionmapping", "dt", "decompositiontype", "ea", "eastasianwidth", "equideo",
   "equivalentunifiedideograph", "xonfc", "expandsonnfc", "xonfd", "expandsonnfd", "xonfkc",
   "expandsonnfkc", "xonfkd", "expandsonnfkd", "fcnfkc", "fcnfkcclosure", "compex",
   "fullcompositionexclusion", "gc", "generalcategory", "gcb", "graphemeclusterbreak", "hst",
   "hangulsyllabletype", "isc", "ocomment", "incb", "indicconjunctbreak", "inpc",
   "indicpositionalcategory", "insc", "indicsyllabiccategory", "jsn", "jamoshortname", "jg",
   "joininggroup", "jt", "joiningtype", "lb", "linebreak", "lc", "lowercasemapping", "nfcqc",
   "nfcquickcheck", "nfdqc", "nfdquickcheck", "nfkccf", "nfkccasefold", "nfkcqc",
   "nfkcquickcheck", "nfkcscf", "nfkcsimplecasefold", "nfkdqc", "nfkdquickcheck", "na", "name",
   "namealias", "nt", "numerictype", "nv", "numericvalue", "sc", "script", "scx",
   "scriptextensions", "sb", "sentencebreak", "scf", "sfc", "simplecasefolding", "slc",
   "simplelowercasemapping", "stc", "simpletitlecasemapping", "suc", "simpleuppercasemapping",
   "tc", "titlecasemapping", "na1", "unicode1name", "uc", "uppercasemapping", "vo",
   "verticalorientation", "wb", "wordbreak", "kaccountingnumeric", "cjkaccountingnumeric",
   "kcompatibilityvariant", "cjkcompatibilityvariant", "kehcat", "kehdesc", "kehhg", "kehifao",
   "kehjsesh", "kehnomirror", "kehnorotate", "kiicore", "cjkiicore", "kirggsource",
   "cjkirggsource", "kirghsource", "cjkirghsource", "kirgjsource", "cjkirgjsource",
   "kirgkpsource", "cjkirgkpsource", "kirgksource", "cjkirgksource", "kirgmsource",
   "cjkirgmsource", "kirgssource", "cjkirgssource", "kirgtsource", "cjkirgtsource",
   "kirguksource", "cjkirguksource", "kirgusource", "cjkirgusource", "kirgvsource",
   "cjkirgvsource", "kothernumeric", "cjkothernumeric", "kprimarynumeric", "cjkprimarynumeric",
   "urs", "krsunicode", "cjkrsunicode", "unicoderadicalstroke"]

end Gridcalc.Log.Pattern
