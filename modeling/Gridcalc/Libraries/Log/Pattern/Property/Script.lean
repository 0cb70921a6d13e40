import Gridcalc.Libraries.Log.Pattern.Property.Row

/-! # Scripts

The scripts of the Unicode character database, version 16.0. A character that several
scripts use belongs to none of them, but is in their extensions. -/

namespace Gridcalc.Log.Pattern

/-- The scripts. -/
def scripts : List PropertyRow :=
  [⟨"adlm adlam", "", "hdeUcXDJDB", ""⟩, ⟨"ahom", "", "ebrCbABODW", ""⟩,
   ⟨"hluw anatolianhieroglyphs", "", "essEwK", ""⟩,
   ⟨"arab arabic", "",
     "chCEAFANACAbFAJKZAeDAbHdBbVjFbEABEcWAbCdntVeKPnYBdBBcBGAbFPeHEAfEfvMbEcOCcCDdglRDAbAABAA" ++
       "BAAJADAAAAFADAAAAAACABAABAAAAAAAAAABAABDAGADADAAAJAQECAEAQbZB", ""⟩,
   ⟨"armn armenian", "", "bzDbLBbXBCdozIE", ""⟩, ⟨"avst avestan", "", "dxcYcBCG", ""⟩,
   ⟨"bali balinese", "", "kfWcYAbX", ""⟩, ⟨"bamu bamum", "", "clcQdJcvcPvW", ""⟩,
   ⟨"bass bassavah", "", "fhkIbDBF", ""⟩, ⟨"batk batak", "", "knGbZHD", ""⟩,
   ⟨"beng bengali", "", "dpODAHBBBVAGAACDBIBBBDHADBAEBY", ""⟩,
   ⟨"bhks bhaiksuki", "", "edoIIAbSANJbC", ""⟩, ⟨"bopo bopomofo", "", "bcSBrlWbQeHbF", ""⟩,
   ⟨"brah brahmi", "", "dzaEcZDbJIA", ""⟩, ⟨"brai braille", "", "pdWjV", ""⟩,
   ⟨"bugi buginese", "", "jwAbBBB", ""⟩, ⟨"buhd buhid", "", "iuYT", ""⟩,
   ⟨"cans canadianaboriginal", "", "hoYyPvNcRdtpPP", ""⟩, ⟨"cari carian", "", "dtyMbW", ""⟩,
   ⟨"aghb caucasianalbanian", "", "duxSbZKA", ""⟩, ⟨"cakm chakma", "", "dzkAcAAR", ""⟩,
   ⟨"cham", "", "cmjWcCINBJBD", ""⟩, ⟨"cher cherokee", "", "hlGdHBFcfjDdB", ""⟩,
   ⟨"chrs chorasmian", "", "dyxCbB", ""⟩,
   ⟨"zyyy common", "",
     "AcMZFZbUAOAEWAbEArGbMEEBTeLAIAFAAAyMAFANACAbFAfZAtVAeYBbvSApODlDAcgKCcSBhUBAAbvGAMAGDAFA" ++
       "CBAbdSLBdIAKCKAOQbGcKbLACBFAbAAQbOCDzPVKUbjRjVyDBbFAeAtRdPpLUAAAYOHDDdMBCAdLBfQPbFbLIAbV" ++
       "cLbEdCbUAdJgLjtNcLbhsHbHdXCgIJjJAgDApEANBbezPBhZJVbIASADfQAAbFZFZKJAbSBcLGAGJEjXCDbSCIdB" ++
       "MbYbSiTbAcshVDfvFjPFqTfZeLcHjLJbMBcJCQHBGbDDcIiETLTLdIIYfEdGAcSABBABBBDALAAAGAcMADBHAGAb" ++
       "BADAEAACGAnBBlFBbXhtGcPcXcIbbDbRDdVLOBOAOAbKJgRcDZABMbRDIGBNFfXblVDQCMCeODdQFLDAOLDcDHJF" ++
       "bNHbDBLDBcJnBLNBMCJEcDGOBKFIGfQAdXbsuxAAbDdR", ""⟩,
   ⟨"copt qaac coptic", "", "bmGNpjJeLEG", ""⟩,
   ⟨"xsux cuneiform", "", "efbSbjLdXeGAEKhN", ""⟩,
   ⟨"cprt cypriot", "", "dvzKFBAAbRABCABA", ""⟩, ⟨"cpmn cyprominoan", "", "ekyYdU", ""⟩,
   ⟨"cyrl cyrillic", "", "bnKfCBgMivNKgDAcXAgfMbFbtnZdRbheBBdhpFcJbGA", ""⟩,
   ⟨"dsrt deseret", "", "dumAdB", ""⟩, ⟨"deva devanagari", "", "dkQdCDOBZcijFbFbreLJ", ""⟩,
   ⟨"diak divesakuru", "", "eckUGBABHABAbDABBLIJ", ""⟩, ⟨"dogr dogra", "", "ecaYcH", ""⟩,
   ⟨"dupl duployan", "", "gmdSeCEMCIGJBD", ""⟩,
   ⟨"egyp egyptianhieroglyphs", "", "eldGbqRJfxQ", ""⟩, ⟨"elba elbasan", "", "duvWbN", ""⟩,
   ⟨"elym elymaic", "", "dyyYW", ""⟩,
   ⟨"ethi ethiopic", "",
     "gvGcUADBGAAADBbOADBbGADBGAAADBOAcEADBcOBbFCZjuZWIGAGAGAGAGAGAGAGbvkBFBFBFIGAGepyEGADABAO",
     ""⟩,
   ⟨"gara garay", "", "dxzCbLCbCHB", ""⟩,
   ⟨"geor georgian", "", "ghSbLAAEABbQADejVbQBCgdZbLAAEA", ""⟩,
   ⟨"glag glagolitic", "", "qrGdRgizFGAQBGABAE", ""⟩, ⟨"goth gothic", "", "dueAbA", ""⟩,
   ⟨"gran grantha", "", "eadSDAHBBBVAGABAEBIBBBCBAFAEGBGCE", ""⟩,
   ⟨"grek greek", "",
     "bhWDACBDAADAAAACAAATAcKNPjnPEbXEDEdFAmHVBFBbLBFBHAAAAAAAbEBcAAOANBFASBCAIlIAcajDAbgnHdAQ" ++
       "AdaxQcR", ""⟩,
   ⟨"gujr gujarati", "", "dzLCAIACAVAGABAEBJACACBAODBLGG", ""⟩,
   ⟨"gong gunjalagondi", "", "eebWFABAbKABAFGJ", ""⟩,
   ⟨"guru gurmukhi", "", "duNCAFDBBVAGABABABBAAEDBBCCAGDAAGQ", ""⟩,
   ⟨"gukh gurungkhema", "", "fdrScF", ""⟩,
   ⟨"han hani", "",
     "rpWZAdKLiFbUAAAYINDblBjtNcLbfbJbhsHoBBeBbsiHBLBccoJclfBbFgdTFiNBinPNlbKOxXdqVuVcfXhhYEgf" ++
       "F", ""⟩,
   ⟨"hang hangul", "", "glKjVllDBjWdPeIbEcMbEbtaMbCySqnRLWDbWpaHbECFBFBFBC", ""⟩,
   ⟨"rohg hanifirohingya", "", "dxwQbNHJ", ""⟩, ⟨"hano hanunoo", "", "itSU", ""⟩,
   ⟨"hatr hatran", "", "dwiASABEE", ""⟩,
   ⟨"hebr hebrew", "", "ccVcCHbADFdovVZAEAAABABAJ", ""⟩,
   ⟨"hira hiragana", "", "shDdHFCfpeUlARAbCCymUA", ""⟩,
   ⟨"armi imperialaramaic", "", "dwbWVAI", ""⟩,
   ⟨"qaai zinh inherited", "",
     "bdOeHkQBrJKZAbcHDgoWbEtSCAMAGDAFACBhPcLuDBhLbGftWDeCBczuIPPNblMAiRAgeZActcTbTBWuXCQHBGbD" ++
       "DbtlhHjF", ""⟩,
   ⟨"phli inscriptionalpahlavi", "", "dxgQSEH", ""⟩,
   ⟨"prti inscriptionalparthian", "", "dxfKVBH", ""⟩,
   ⟨"java javanese", "", "cmeYcZBJDB", ""⟩,
   ⟨"kthi kaithi", "", "dzfCcOJA", ""⟩,
   ⟨"knda kannada", "", "etCMACAWAJAEBIACADGBFBADBJAC", ""⟩,
   ⟨"kana katakana", "", "skVdLBCjFPhZbUAdJczhDJAbScouBDAGABAAlACbXAND", ""⟩,
   ⟨"kawi", "", "eerWQAbOCbC", ""⟩, ⟨"kali kayahli", "", "cmaAbTAA", ""⟩,
   ⟨"khar kharoshthi", "", "dwtCDABEHACAbCBCDJGI", ""⟩,
   ⟨"kits khitansmallscript", "", "fjiIAkgWsBbOA", ""⟩,
   ⟨"khmr khmer", "", "ixKdPBJFJsRbF", ""⟩,
   ⟨"khoj khojki", "", "dztWRAbU", ""⟩, ⟨"sind khudawadi", "", "eaaQcGEJ", ""⟩,
   ⟨"krai kiratrai", "", "fiiIcF", ""⟩, ⟨"lao laoo", "", "fmVBAAAEAXAAAWBEAAAGAJBD", ""⟩,
   ⟨"latn latin", "",
     "cNZFZbUAOAEWAbEArGbMEjxAbLFbWEDEMAcRcMjVoEAMAPMfKBFAbAAQbOecSbFbulLdXCcOBBAAAHUNbfJbQAIA" ++
       "DbedPGboJZFZdcEFAbPAIddnObEFF", ""⟩,
   ⟨"lepc lepcha", "", "kpScDCOCC", ""⟩, ⟨"limb limbu", "", "jmEbEALDLDACL", ""⟩,
   ⟨"lina lineara", "", "dvfSlYIVJH", ""⟩, ⟨"linb linearb", "", "dsyQLAZASABAOBNbHeS", ""⟩,
   ⟨"lisu", "", "ckkUbVbulZA", ""⟩, ⟨"lyci lycian", "", "dtxGbC", ""⟩,
   ⟨"lydi lydian", "", "dwkMZEA", ""⟩, ⟨"mahj mahajani", "", "dznCbM", ""⟩,
   ⟨"maka makasar", "", "eeqQY", ""⟩, ⟨"mlym malayalam", "", "eyAMACAbYACAFDPBZ", ""⟩,
   ⟨"mand mandaic", "", "ddGbBBA", ""⟩, ⟨"mani manichaean", "", "dxaMbMDL", ""⟩,
   ⟨"marc marchen", "", "edsQbFBVAN", ""⟩,
   ⟨"gonm masaramgondi", "", "edyEGABAbRCAABAIHJ", ""⟩,
   ⟨"medf medefaidrin", "", "fisEdM", ""⟩, ⟨"mtei meeteimayek", "", "cmsMWhSbTBJ", ""⟩,
   ⟨"mend mendekikakui", "", "hcuYhOBP", ""⟩,
   ⟨"merc meroiticcursive", "", "dwpKXDTBbT", ""⟩,
   ⟨"mero meroitichieroglyphs", "", "dwoEbF", ""⟩, ⟨"miao plrd", "", "fizOcWDcEGQ", ""⟩,
   ⟨"modi", "", "ebhGcQKJ", ""⟩, ⟨"mong mongolian", "", "jcIBBAATFdKGbQdscAM", ""⟩,
   ⟨"mro mroo", "", "fheUbEAJDB", ""⟩, ⟨"mult multani", "", "dzyUGAAADAOAK", ""⟩,
   ⟨"mymr myanmar", "", "gbOgDcgaXbEdSbFbpaLT", ""⟩, ⟨"nbat nabataean", "", "dweIbEHI", ""⟩,
   ⟨"nagm nagmundari", "", "hbpObP", ""⟩, ⟨"nand nandinagari", "", "ecqYHBbTBK", ""⟩,
   ⟨"talu newtailue", "", "jrCbRDZFKCB", ""⟩, ⟨"newa", "", "eanOdNAE", ""⟩,
   ⟨"nko nkoo", "", "cyIcGBC", ""⟩, ⟨"nshu nushu", "", "fjiFAyvLpF", ""⟩,
   ⟨"hmnp nyiakengpuachuehmong", "", "haeAbSCNBJDB", ""⟩, ⟨"ogam ogham", "", "inObC", ""⟩,
   ⟨"olck olchiki", "", "ksUbV", ""⟩, ⟨"onao olonal", "", "hbzKbQDA", ""⟩,
   ⟨"hung oldhungarian", "", "dxrSbYMbYGF", ""⟩, ⟨"ital olditalic", "", "ducEbJIC", ""⟩,
   ⟨"narb oldnortharabian", "", "dwyAbF", ""⟩, ⟨"perm oldpermic", "", "dufGbQ", ""⟩,
   ⟨"xpeo oldpersian", "", "duiIbJDN", ""⟩, ⟨"sogo oldsogdian", "", "dyqIbN", ""⟩,
   ⟨"sarb oldsoutharabian", "", "dwwUbF", ""⟩, ⟨"orkh oldturkic", "", "dxmUcU", ""⟩,
   ⟨"ougr olduyghur", "", "dyuQZ", ""⟩,
   ⟨"orya oriya", "", "eeJCAHBBBVAGABAEBIBBBCGCDBAEBR", ""⟩,
   ⟨"osge osage", "", "dusUbJDbJ", ""⟩, ⟨"osma osmanya", "", "duqYbDBJ", ""⟩,
   ⟨"hmng pahawhhmong", "", "fhmEcRJJAGAUES", ""⟩, ⟨"palm palmyrene", "", "dwdCbF", ""⟩,
   ⟨"pauc paucinhau", "", "edcAcE", ""⟩, ⟨"phag phagspa", "", "clsQcD", ""⟩,
   ⟨"phnx phoenician", "", "dwjGbBCA", ""⟩, ⟨"phlp psalterpahlavi", "", "dxhWRGDLG", ""⟩,
   ⟨"rjng rejang", "", "cmbWbJKA", ""⟩, ⟨"runr runic", "", "ioUcWCK", ""⟩,
   ⟨"samr samaritan", "", "daUbTBO", ""⟩, ⟨"saur saurashtra", "", "clvCcRHL", ""⟩,
   ⟨"shrd sharada", "", "dzoYdR", ""⟩, ⟨"shaw shavian", "", "dupCbV", ""⟩,
   ⟨"sidd siddham", "", "ebcIcBBbL", ""⟩, ⟨"sgnw signwriting", "", "gwtKzBOEAO", ""⟩,
   ⟨"sinh sinhala", "", "fcZCARCXAIAABGCADFAAAHFJBCdulFT", ""⟩,
   ⟨"sogd sogdian", "", "dysEbP", ""⟩, ⟨"sora sorasompeng", "", "dziEYGJ", ""⟩,
   ⟨"soyo soyombo", "", "ecxSdE", ""⟩, ⟨"sund sundanese", "", "kkUcLjVH", ""⟩,
   ⟨"sunu sunuwar", "", "edlWbHNJ", ""⟩, ⟨"sylo sylotinagri", "", "clqEbS", ""⟩,
   ⟨"syrc syriac", "", "cqYNAcHBCkLK", ""⟩, ⟨"tglg tagalog", "", "isMVIA", ""⟩,
   ⟨"tagb tagbanwa", "", "iwEMACAB", ""⟩, ⟨"tale taile", "", "jpGbDBE", ""⟩,
   ⟨"lana taitham", "", "jxGcKAbCBKFJFN", ""⟩, ⟨"tavt taiviet", "", "cmoUcOXE", ""⟩,
   ⟨"takr takri", "", "ebmEcFFJ", ""⟩,
   ⟨"taml tamil", "", "ejIBAFCCADCBAAABCBCCCLDECCADBAFANUealGbXMA", ""⟩,
   ⟨"tnsa tangsa", "", "fhgQdAAJ", ""⟩, ⟨"tang tangut", "", "fjiEAbEjbZHbdNtRI", ""⟩,
   ⟨"telu telugu", "", "eoEMACAWAPBIACADGBACBABDBJGI", ""⟩,
   ⟨"thaa thaana", "", "cvWbX", ""⟩,
   ⟨"thai", "", "fhXcFEbB", ""⟩, ⟨"tibt tibetan", "", "frScTAbJDbMAbJAOAGDB", ""⟩,
   ⟨"tfng tifinagh", "", "rcYcDGBNA", ""⟩, ⟨"tirh tirhuta", "", "easMcTHJ", ""⟩,
   ⟨"todr todhri", "", "dvdGbZ", ""⟩, ⟨"toto", "", "hatKbE", ""⟩,
   ⟨"tutg tulutigalari", "", "eaiQJAABAAbLAJAABAADAJABHB", ""⟩,
   ⟨"ugar ugaritic", "", "duhCbDAA", ""⟩, ⟨"vai vaii", "", "ckmQlN", ""⟩,
   ⟨"vith vithkuqi", "", "dvaEKAOAGABAKAOAGAB", ""⟩, ⟨"wcho wancho", "", "havGcFEA", ""⟩,
   ⟨"wara warangciti", "", "echCdELA", ""⟩, ⟨"yezi yezidi", "", "dylKbPACBB", ""⟩,
   ⟨"yi yiii", "", "cipKbsUCcC", ""⟩, ⟨"zanb zanabazarsquare", "", "ecuQcT", ""⟩]

/-- The extensions that are not equal to the scripts of their names. -/
def scriptExtensions : List PropertyRow :=
  [⟨"adlm adlam", "adlm", "ciHAbFAjwNAfhGA", ""⟩,
   ⟨"arab arabic", "arab", "chOANACAbFAJKZAjuRAfhGAdajZBcdJbB", ""⟩,
   ⟨"armn armenian", "armn", "bdWA", ""⟩, ⟨"avst avestan", "avst", "hBArfRB", ""⟩,
   ⟨"beng bengali", "beng", "baYAcmTBQBhjDAAABBAAHAHABADABCcbaEA", ""⟩,
   ⟨"bopo bopomofo", "bopo", "bbJAACMArcOCDJAMJDBAFAhMAcztGBkVE", ""⟩,
   ⟨"bugi buginese", "bugi", "cmhZA", ""⟩, ⟨"buhd buhid", "", "iuNBIT", ""⟩,
   ⟨"cari carian", "cari", "hBAlzLABAfgCA", ""⟩,
   ⟨"aghb caucasianalbanian", "aghb", "bdSAbRAbRA", ""⟩,
   ⟨"cakm chakma", "cakm", "dtMJckDJ", ""⟩,
   ⟨"cher cherokee", "cher", "bdOCAAFBVBKB", ""⟩,
   ⟨"zyyy common", "zyyy",
     "",
     "hBAtVAJAACAAIAAAfXAzMANACAbFAbeWBcwQAcgKCcSBhUBAAbvGAMAGDAFACBAbfNAbEAJABAffCAXBJADAAAqL" ++
       "PACBAAJAMPFAADDdMBCAdLBfQPbFbLIAbVbNcDbWOLbYAdJYJEdRbEbroIHlJJjJAgDAbfpLBkABkVEJAbSBnNCD" ++
       "bSCIqAbAcshVDipVRlrXB"⟩,
   ⟨"copt qaac coptic", "copt", "hBAwLACBAAeDBqdSAdcpBbB", ""⟩,
   ⟨"cprt cypriot", "cprt", "dtiMCDbSCI", ""⟩, ⟨"cpmn cyprominoan", "cpmn", "dtiMB", ""⟩,
   ⟨"cyrl cyrillic", "cyrl", "baYAcOCAAAAAABAEAoGBjqMAgeJA", ""⟩,
   ⟨"deva devanagari", "deva", "baYAcmTBQBhjDbMABbmZAbzfQJ", ""⟩,
   ⟨"dogr dogra", "dogr", "doMLcidBJ", ""⟩,
   ⟨"dupl duployan", "dupl", "hBAwSBAAXBqiGAfuwOD", ""⟩,
   ⟨"elba elbasan", "elba", "hBAwQA", ""⟩, ⟨"ethi ethiopic", "ethi", "beCA", ""⟩,
   ⟨"gara garay", "gara", "chOANACA", ""⟩,
   ⟨"geor georgian", "geor", "hBAbvKAeiQAfvHAfgFA", ""⟩,
   ⟨"glag glagolitic", "glag", "hBAwOAAAoRABAjWAeiQAfvHAfgXAbtnEA", ""⟩,
   ⟨"goth gothic", "goth", "hBAwPBBAbNA", ""⟩,
   ⟨"gran grantha", "gran", "dnTBQByPNgjZAABbDCCBbmZAdntPAetVBAA", ""⟩,
   ⟨"grek greek", "grek", "hBAwLBBAAAAAJAbTABAbTAjyWBzQA", ""⟩,
   ⟨"gujr gujarati", "gujr", "dnTBQBcidLJ", ""⟩,
   ⟨"gong gunjalagondi", "gong", "hBAdhJB", ""⟩,
   ⟨"guru gurmukhi", "guru", "dnTBQBcidLJ", ""⟩, ⟨"gukh gurungkhema", "gukh", "doNA", ""⟩,
   ⟨"han hani", "han",
     "hBArwXPACBAAJAMJDBAFADDhEAfRPbFbLIAbVbNcDbWOLbYAdJYJEdRbEbroIHbhaYBkVEdchDRlrXB", ""⟩,
   ⟨"hang hangul", "hang", "seRCDJAMPAFAhMAcztGBkVE", ""⟩,
   ⟨"rohg hanifirohingya", "rohg", "chOANACAbFAfQA", ""⟩, ⟨"hano hanunoo", "", "itSW", ""⟩,
   ⟨"hebr hebrew", "hebr", "bdVB", ""⟩,
   ⟨"hira hiragana", "hira", "seRCDJAMPFAADBdMDCAdLBcztFBkVEJAbSB", ""⟩,
   ⟨"qaai zinh inherited", "qaai",
     "",
     "bdOOABAALABCGBABPABARAEADMkQBrJKZAbcHBhjWCAMAGDAFACBhPBcBAAAbdCAftWDeCBdbqIAgeZA"⟩,
   ⟨"java javanese", "java", "cmhZA", ""⟩, ⟨"kthi kaithi", "kthi", "doOJnxWAbufDJ", ""⟩,
   ⟨"knda kannada", "knda", "dnTBQBhjDAABFAWAAAcasWF", ""⟩,
   ⟨"kana katakana", "kana", "bdTAbCAqzSCDJAMPFAADBdMDCAdLBcztFBkVEJAbSB", ""⟩,
   ⟨"kali kayahli", "", "cmaAbV", ""⟩, ⟨"khoj khojki", "khoj", "edIJchoHJ", ""⟩,
   ⟨"sind khudawadi", "sind", "doMBcidLJ", ""⟩,
   ⟨"latn latin", "latn",
     "hBAtVAJAACAAIAAAbLOABAALABCGBABbLAEADMkQBbvDBcxJAexVAvTAhJAezLAbtuLHvDA", ""⟩,
   ⟨"limb limbu", "limb", "doNA", ""⟩, ⟨"lina lineara", "lina", "dtiTbS", ""⟩,
   ⟨"linb linearb", "linb", "dtiMCDbSCI", ""⟩, ⟨"lisu", "lisu", "baYAPArdJB", ""⟩,
   ⟨"lyci lycian", "lyci", "mgOA", ""⟩, ⟨"lydi lydian", "lydi", "hBArfSA", ""⟩,
   ⟨"mahj mahajani", "mahj", "hBAdhJLcidBJ", ""⟩,
   ⟨"mlym malayalam", "mlym", "dnTBQBhjNAWAcasYC", ""⟩,
   ⟨"mand mandaic", "mand", "cjOA", ""⟩,
   ⟨"mani manichaean", "mani", "cjOA", ""⟩, ⟨"gonm masaramgondi", "gonm", "doMB", ""⟩,
   ⟨"mero meroitichieroglyphs", "mero", "mgRA", ""⟩, ⟨"modi", "modi", "clsAJ", ""⟩,
   ⟨"mong mongolian", "mong", "jcKBAAdcIAfzSBED", ""⟩, ⟨"mult multani", "mult", "dyKJ", ""⟩,
   ⟨"mymr myanmar", "mymr", "cmbUA", ""⟩,
   ⟨"nand nandinagari", "nand", "doMBbiLJgbGAHAGAcasQF", ""⟩,
   ⟨"nko nkoo", "nko", "chOANACAdppDB", ""⟩, ⟨"onao olonal", "onao", "doMB", ""⟩,
   ⟨"hung oldhungarian", "hung", "mgOABAfgCAOA", ""⟩,
   ⟨"perm oldpermic", "perm", "hBAwLAECJAoCA", ""⟩,
   ⟨"orkh oldturkic", "orkh", "mgOAfgEA", ""⟩,
   ⟨"ougr olduyghur", "", "cjOAdusUAbsEZ", ""⟩, ⟨"orya oriya", "orya", "dnTBQBhjNAWA", ""⟩,
   ⟨"osge osage", "osge", "bdPABAFAcXA", ""⟩,
   ⟨"phag phagspa", "phag", "jcKBAAdcIAfzTA", ""⟩,
   ⟨"phlp psalterpahlavi", "phlp", "cjOA", ""⟩, ⟨"runr runic", "", "ioUdK", ""⟩,
   ⟨"samr samaritan", "samr", "rmVA", ""⟩,
   ⟨"shrd sharada", "shrd", "dnTAhkEAAABBBAcatQFBA", ""⟩,
   ⟨"shaw shavian", "shaw", "hBA", ""⟩, ⟨"sinh sinhala", "sinh", "doMBhkLA", ""⟩,
   ⟨"sogd sogdian", "sogd", "cjOA", ""⟩, ⟨"sunu sunuwar", "sunu", "bdOBAAIABAbBACA", ""⟩,
   ⟨"sylo sylotinagri", "sylo", "doMBeXJ", ""⟩,
   ⟨"syrc syriac", "syrc", "bdRBBBAAUABCGBAAbcCANBBAbFAJKZAixQAAA", ""⟩,
   ⟨"tglg tagalog", "", "isMVIAUB", ""⟩, ⟨"tagb tagbanwa", "tagb", "iuNB", ""⟩,
   ⟨"tale taile", "tale", "bdOBEBCAezYJ", ""⟩, ⟨"takr takri", "takr", "doMBcidLJ", ""⟩,
   ⟨"taml tamil", "taml", "dnTBQBhjNAcbbJAboeEAAAcCB", ""⟩,
   ⟨"tang tangut", "tang", "seAPtAA", ""⟩, ⟨"telu telugu", "telu", "dnTBQBhjNAWA", ""⟩,
   ⟨"thaa thaana", "", "chOANBBAcLJkRbXdpgPAJA", ""⟩, ⟨"thai", "thai", "baYAZAbQAbSA", ""⟩,
   ⟨"tibt tibetan", "tibt", "seYD", ""⟩, ⟨"tfng tifinagh", "tfng", "bdQAAABAAA", ""⟩,
   ⟨"tirh tirhuta", "tirh", "dnTBQBhkLAcasYJ", ""⟩,
   ⟨"todr todhri", "todr", "bdPABABAIAAAcVA", ""⟩, ⟨"toto", "toto", "baYA", ""⟩,
   ⟨"tutg tulutigalari", "tutg", "exAJgbPAAAcasWFhEA", ""⟩,
   ⟨"yezi yezidi", "yezi", "chOANACAcLJ", ""⟩, ⟨"yi yiii", "yi", "seRBEJBHiOAdaeEE", ""⟩]

/-- The scripts that no character has. -/
def emptyScripts : List String :=
  ["hrkt", "katakanaorhiragana", "zzzz", "unknown"]

end Gridcalc.Log.Pattern
