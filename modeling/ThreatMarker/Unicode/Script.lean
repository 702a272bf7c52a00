import ThreatMarker.Unicode.Packed
/-
# Scripts

The script of a code point is the writing system it belongs to.  Its script extensions are all the
writing systems that use it; for most scripts the two tables agree, and only the scripts for which
they differ are listed a second time.
-/

namespace ThreatMarker.Unicode

set_option autoImplicit false

/-- The names of each script and its code points, packed. -/
def scriptTable : List (List String × List String) := [
  (["adlm", "adlam"],
    ["j6oAiLFJFB"]),
  (["aghb", "caucasianalbanian"],
    ["ihpQhTMA"]),
  (["ahom"],
    ["il4AaDOFW"]),
  (["arab", "arabic"],
    ["hwAECFCNCCCfCJMZCjLChBiRhPnRhBGiKCch8yRvNDkPhBPjRECkGj7EeiEFJIhCFh34BDCaCBCADACJCDCACAHAFACA",
     "CACCCBCADACACACACACBCADDCGCDCDCACJCQGCCECQhVB"]),
  (["armi", "imperialaramaic"],
    ["iiiAVCI"]),
  (["armn", "armenian"],
    ["hpRhFDhRDCh9sEE"]),
  (["avst", "avestan"],
    ["ii4AhVEG"]),
  (["bali", "balinese"],
    ["m4AiMChR"]),
  (["bamu", "bamum"],
    ["hp1AiXhwoJxY"]),
  (["bass", "bassavah"],
    ["i62QdDF"]),
  (["batk", "batak"],
    ["m+AhTJD"]),
  (["beng", "bengali"],
    ["isADCHDBDVCGCAEDDIDBDDJAFBCEDY"]),
  (["berf", "beriaerfe"],
    ["i71AYDY"]),
  (["bhks", "bhaiksuki"],
    ["ingAIChMCNLc"]),
  (["bopo", "bopomofo"],
    ["3KBrwahKjRf"]),
  (["brah", "brahmi"],
    ["ikgAiNFhDKA"]),
  (["brai", "braille"],
    ["qgAnf"]),
  (["bugi", "buginese"],
    ["mwAbDB"]),
  (["buhd", "buhid"],
    ["l6AT"]),
  (["cakm", "chakma"],
    ["ikoAhUCR"]),
  (["cans", "canadianaboriginal"],
    ["lgAzfxRiFigtbP"]),
  (["cari", "carian"],
    ["ig1AhQ"]),
  (["cham"],
    ["hqwAhWKNDJDD"]),
  (["cher", "cherokee"],
    ["k9AiVDFhl7TiP"]),
  (["chrs", "chorasmian"],
    ["ij9Qb"]),
  (["copt", "coptic", "qaac"],
    ["-CNqkRjTGG"]),
  (["cpmn", "cyprominoan"],
    ["ir8QjC"]),
  (["cprt", "cypriot"],
    ["iigAFDAChLCBEADA"]),
  (["cyrl", "cyrillic"],
    ["hgAkEDlIl6RKlBAiNAkjIf+iBif18PBh4wBhdhCA"]),
  (["deva", "devanagari"],
    ["ioAiQFODZhn7Bf8wBJ"]),
  (["diak", "divesakuru"],
    ["imoAGDADHCBCdCBDLKJ"]),
  (["dogr", "dogra"],
    ["imgAhb"]),
  (["dsrt", "deseret"],
    ["ihgAiP"]),
  (["dupl", "duployan"],
    ["jvgAjKGMEIIJDD"]),
  (["egyp", "egyptianhieroglyphs"],
    ["isgAhiVLj8a"]),
  (["elba", "elbasan"],
    ["ihoAhH"]),
  (["elym", "elymaic"],
    ["ij-AW"]),
  (["ethi", "ethiopic"],
    ["kwAiICDDGCACDDhICDDhACDDGCACDDOChYCDDiCDfEZmvHWKGCGCGCGCGCGCGCG-pDFDFDFKGCGivlSGCDCBCO"]),
  (["gara", "garay"],
    ["ijqAhFEcJB"]),
  (["geor", "georgian"],
    ["klAhFCAGADhKCDi8RhKDCkiBhFCAGA"]),
  (["glag", "glagolitic"],
    ["rgAifjs9BGCQDGCBCE"]),
  (["gong", "gunjalagondi"],
    ["inrAFCBChECBCFIJ"]),
  (["gonm", "masaramgondi"],
    ["inoAGCBChLEACBCIJJ"]),
  (["goth", "gothic"],
    ["ig5Qa"]),
  (["gran", "grantha"],
    ["ik4ADCHDBDVCGCBCEDIDBDCDAHAGGDGEE"]),
  (["grek", "greek"],
    ["7QDCCDDCAFACACCCACTChePPmpHEhTEFEiVAqBVDFDhFDFDHCACACACeDhUCOCNDFCSDCCIpIAhixfA1ubiOSAh0jAiF"]),
  (["gujr", "gujarati"],
    ["i0BCCICCCVCGCBCEDJCCCCDAQDDLIG"]),
  (["gukh", "gurungkhema"],
    ["i4oAhZ"]),
  (["guru", "gurmukhi"],
    ["iwBCCFFBDVCGCBCBCBDACEFBDCEAIDCAIQ"]),
  (["hang", "hangul"],
    ["koAnfnxPBoCidjSeiCe93Cc0Eq9DNWFhQp9FeEFDFDFDC"]),
  (["hani", "han"],
    ["r0AZCiYNmVhQACAaIPD+FmtfiB0vf2oBrNDjJ9oJBNGhkgKhp2fhBkodDl0NDnpQQzNitDwdhvDk6KGopJ"]),
  (["hano", "hanunoo"],
    ["l5AU"]),
  (["hatr", "hatran"],
    ["iinASCBGE"]),
  (["hebr", "hebrew"],
    ["hsRhWJaFFh9pJZCECACBCBCJ"]),
  (["hira", "hiragana"],
    ["siBiVHCi-7CoeTAeCwlOA"]),
  (["hluw", "anatolianhieroglyphs"],
    ["ixgAyG"]),
  (["hmng", "pahawhhmong"],
    ["i64AiFLJCGCUGS"]),
  (["hmnp", "nyiakengpuachuehmong"],
    ["j4oAhMENDJFB"]),
  (["hung", "oldhungarian"],
    ["ijkAhSOhSIF"]),
  (["ital", "olditalic"],
    ["ig4AhDKC"]),
  (["java", "javanese"],
    ["hqsAiNDJFB"]),
  (["kali", "kayahli"],
    ["hqoAhNCA"]),
  (["kana", "katakana"],
    ["slBiZDCnRPmRhOCiXhzgPJChMhsiTDCGCBCApAChTAPD"]),
  (["kawi"],
    ["in4AQChIEc"]),
  (["khar", "kharoshthi"],
    ["iiwADCBGHCCCcDCFJII"]),
  (["khmr", "khmer"],
    ["l8AidDJHJvHf"]),
  (["khoj", "khojki"],
    ["ikwARChO"]),
  (["kits", "khitansmallscript"],
    ["i7-EAm4cuVhKA"]),
  (["knda", "kannada"],
    ["jkAMCCCWCJCEDICCCDIBGCCDDJCC"]),
  (["krai", "kiratrai"],
    ["i7qAhZ"]),
  (["kthi", "kaithi"],
    ["ikkAiCLA"]),
  (["lana", "taitham"],
    ["mxAheCcDKHJHN"]),
  (["laoo", "lao"],
    ["j0BBCACECXCACWDECACGCJDD"]),
  (["latn", "latin"],
    ["iBZHZhQAQAGWCeCuAhIEmwchFHhQGDGMCiFiCnfrSAOARMkOBHAcAShIi2Yf+1DjFEiRVO5RhKCICDz8XGhgbZHZihGF",
     "ChJCIh16GeHF"]),
  (["lepc", "lepcha"],
    ["ngAhXEOEC"]),
  (["limb", "limbu"],
    ["moAeCLFLFAEL"]),
  (["lina", "lineara"],
    ["ihwApWKVLH"]),
  (["linb", "linearb"],
    ["iggALCZCSCBCODNhDja"]),
  (["lisu"],
    ["hpmQhP+1RA"]),
  (["lyci", "lycian"],
    ["ig0Ac"]),
  (["lydi", "lydian"],
    ["iipAZGA"]),
  (["mahj", "mahajani"],
    ["ikqQhG"]),
  (["maka", "makasar"],
    ["in3AY"]),
  (["mand", "mandaic"],
    ["iiAbDA"]),
  (["mani", "manichaean"],
    ["ii2AhGFL"]),
  (["marc", "marchen"],
    ["injQfDVCN"]),
  (["medf", "medefaidrin"],
    ["i7yAia"]),
  (["mend", "mendekikakui"],
    ["j6gAmEDP"]),
  (["merc", "meroiticcursive"],
    ["iitAXFTDhN"]),
  (["mero", "meroitichieroglyphs"],
    ["iisAf"]),
  (["mlym", "malayalam"],
    ["joAMCCChSCCCFFPDZ"]),
  (["modi"],
    ["ilwAiEMJ"]),
  (["mong", "mongolian"],
    ["mgABDACTHiYIhKh-tWM"]),
  (["mroo", "mro"],
    ["i6yAeCJFB"]),
  (["mtei", "meeteimayek"],
    ["hq3AWmKhNDJ"]),
  (["mult", "multani"],
    ["ik0AGCACDCOCK"]),
  (["mymr", "myanmar"],
    ["kgAkfhmqBejCf7iRT"]),
  (["nagm", "nagmundari"],
    ["j5mQhJ"]),
  (["nand", "nandinagari"],
    ["imtAHDhNDK"]),
  (["narb", "oldnortharabian"],
    ["ii0Af"]),
  (["nbat", "nabataean"],
    ["iikAeJI"]),
  (["newa"],
    ["ilgAibCE"]),
  (["nkoo", "nko"],
    ["h+AhaDC"]),
  (["nshu", "nushu"],
    ["i7-BAwsPsL"]),
  (["ogam", "ogham"],
    ["l0Ac"]),
  (["olck", "olchiki"],
    ["niQhP"]),
  (["onao", "olonal"],
    ["j5uQhKFA"]),
  (["orkh", "oldturkic"],
    ["ijgAiI"]),
  (["orya", "oriya"],
    ["i4BCCHDBDVCGCBCEDIDBDCICFBCEDR"]),
  (["osge", "osage"],
    ["ihlQhDFhD"]),
  (["osma", "osmanya"],
    ["ihkAdDJ"]),
  (["ougr", "olduyghur"],
    ["ij7QZ"]),
  (["palm", "palmyrene"],
    ["iijAf"]),
  (["pauc", "paucinhau"],
    ["im2AhY"]),
  (["perm", "oldpermic"],
    ["ig6QhK"]),
  (["phag", "phagspa"],
    ["hqiAhX"]),
  (["phli", "inscriptionalpahlavi"],
    ["ii7ASGH"]),
  (["phlp", "psalterpahlavi"],
    ["ii8ARIDNG"]),
  (["phnx", "phoenician"],
    ["iioAbEA"]),
  (["plrd", "miao"],
    ["i74AiKFhYIQ"]),
  (["prti", "inscriptionalparthian"],
    ["ii6AVDH"]),
  (["rjng", "rejang"],
    ["hqpQhDMA"]),
  (["rohg", "hanifirohingya"],
    ["ijoAhHJJ"]),
  (["runr", "runic"],
    ["l1AiKEK"]),
  (["samr", "samaritan"],
    ["igAhNDO"]),
  (["sarb", "oldsoutharabian"],
    ["iizAf"]),
  (["saur", "saurashtra"],
    ["hqkAiFJL"]),
  (["sgnw", "signwriting"],
    ["j2gA0LQECO"]),
  (["shaw", "shavian"],
    ["ihiQhP"]),
  (["shrd", "sharada"],
    ["iksAifisBH"]),
  (["sidd", "siddham"],
    ["ilsAhVDhF"]),
  (["sidt", "sidetic"],
    ["iiqAZ"]),
  (["sind", "khudawadi"],
    ["ik1QhaGJ"]),
  (["sinh", "sinhala"],
    ["jsBCCREXCICADGEAFFCACHHJDCig-NT"]),
  (["sogd", "sogdian"],
    ["ij5QhJ"]),
  (["sogo", "oldsogdian"],
    ["ij4AhH"]),
  (["sora", "sorasompeng"],
    ["ikmQYIJ"]),
  (["soyo", "soyombo"],
    ["imyQiS"]),
  (["sund", "sundanese"],
    ["m8AhfoBH"]),
  (["sunu", "sunuwar"],
    ["im+AhBPJ"]),
  (["sylo", "sylotinagri"],
    ["hqgAhM"]),
  (["syrc", "syriac"],
    ["h4ANChbDCoRK"]),
  (["tagb", "tagbanwa"],
    ["l7AMCCCB"]),
  (["takr", "takri"],
    ["il0AhZHJ"]),
  (["tale", "taile"],
    ["mqQdDE"]),
  (["talu", "newtailue"],
    ["msAhLFZHKEB"]),
  (["taml", "tamil"],
    ["i8CBCFECCDEBCACBEBECELFEECCDDAHAPUik+GhROA"]),
  (["tang", "tangut"],
    ["i7-AAhAm3fwBejCjS"]),
  (["tavt", "taiviet"],
    ["hq0AiCZE"]),
  (["tayo", "taiyo"],
    ["j52AeCVJB"]),
  (["telu", "telugu"],
    ["jgAMCCCWCPDICCCDIBCCCBDDDJII"]),
  (["tfng", "tifinagh"],
    ["rpQhXIBPA"]),
  (["tglg", "tagalog"],
    ["l4AVKA"]),
  (["thaa", "thaana"],
    ["h8AhR"]),
  (["thai"],
    ["jwBhZGb"]),
  (["tibt", "tibetan"],
    ["j4AiHChDFhGChDCOCGFB"]),
  (["tirh", "tirhuta"],
    ["ilkAiHJJ"]),
  (["tnsa", "tangsa"],
    ["i6zQiOCJ"]),
  (["todr", "todhri"],
    ["ihuAhT"]),
  (["tols", "tolongsiki"],
    ["intQhLFJ"]),
  (["toto"],
    ["j40Qe"]),
  (["tutg", "tulutigalari"],
    ["ik8AJCADAChFCJCADACDCJCBJB"]),
  (["ugar", "ugaritic"],
    ["ig8AdCA"]),
  (["vaii", "vai"],
    ["hpoApL"]),
  (["vith", "vithkuqi"],
    ["ihrQKCOCGCBCKCOCGCB"]),
  (["wara", "warangciti"],
    ["imlAiSNA"]),
  (["wcho", "wancho"],
    ["j42AhZGA"]),
  (["xpeo", "oldpersian"],
    ["ig9AhDFN"]),
  (["xsux", "cuneiform"],
    ["iogA8ZjHjOCEMmD"]),
  (["yezi", "yezidi"],
    ["ij0AhJCCDB"]),
  (["yiii", "yi"],
    ["hogAhkMEhW"]),
  (["zanb", "zanabazarsquare"],
    ["imwAiH"]),
  (["zinh", "inherited", "qaai"],
    ["4AjPoWBuFKbA3BDkqchNDLvFCCMCGFAHAEBmHhfwNBmDhAj5aDjMBhzrGPRN+QAnDAkibAhu+FhNDWxBCSHDGfD4r6Tn",
     "P"]),
  (["zyyy", "common"],
    ["AiAbFbhOCOCEYAhAAuChGGEDTjVAKAHACAzeAHAPAEAhBAkdAwFAkCBhmaAsWDpDAhvQCiIBmMBCAhmOAOAIDCFCCDA4",
     "GLDiWCKEKCOShBhfhFCCDFCaCQhKCF0ZXKW8foBzTDkJwBidsTUCACYQHFDicBEAibBkUPhBhFKAhRhfhAiQhQAiZlHm",
     "uBhf2oBhBjHClGJnVAlBAsMAPB0uTBmRJXhCCSCDkUACfbFbKLAhOBiBGCGLEoDCFhMEIiRMhUhMnFahutFDj6dncEtT",
     "HWQQjAjThdnVLhGDhdEQJBIdFhcmWTNTNiWKYkIiUCiGCBDADBDDCLCACGCiACDDHCGCbCDCECAEGCqTDpDDhRljSiDi",
     "Nhc2DhLFjDNODOCOChELlNhZZCBOhLFIIBPFkb+YEQEMEmZHLFAQLFhXJJHhHJdDLFBPIhIqXJNDMEKEhYCAFPDLFJIk",
     "SCjG4hgHAfif"]),
  (["zzzz", "unknown"],
    ["7YBHDIACAVAsOAhHBhTBEAhYHcDHKoPAhdBjGNhcBhSBQAdBCAMEhDEnOAJBDBXAIACCFBKBDBFHCDDAGBaBEAHDDBXA",
     "IADADADBCAGDDBECCGFACGSJEAKAEAXAIADAGBLAEAEBCOFBNGIAEAJBDBXAIADAGBKBDBEGEDDAGBTJDAHCEAFCDACA",
     "DCDCECNDGCEAFBCFCNWEOAEAYARBKAEAFGDAEADBFBLGXAEAYALAGBKAEAFGDEEAFBLAELOAEAhUAEAHDRBbAEATCZAK",
     "ACBICCDHACAJFLBELhbDehEDACAGAZACAYBGACAIALBFfiJAhFDhIAhFAQAOhEmHACECBraAFBIACAFBhKAFBhCAFBIA",
     "CAFBQAhaAFBiEBhBCbFiXBHB0eCiaGXIZIVLOAEADLifBLFLFbFiaGhMEiHJhAANDNDCChLBGKhNDbFMChfBiCAeBMFL",
     "FPBhPBNTiOAlHHhdCQChfEhMBMHhMEwXBHBhHBHBJACACACAhABhWAQAPBHAUBEAKAjGANBcAOChDNhCOkND0bVMUh4V",
     "BrfEhOACECBhZGDNZIIAIAIAIAIAIAIAIAjfhBbAiaLmXZiRAiXBjIEhMAifAiXIhRA8zOChYIqdTlZHmeThdCLFhZHi",
     "HHNFjVKfCiPAMDhCAhYIPBLBjIXdJHBHBHIIAIAhdDjfBLFq9FLYDhSooDrPBjLhFILGEbAGACADADA0LfhLFhUAUAFD",
     "GAkIBCAlfCHBHBHBECIAIJGBNAbAUADAQBPhBjcEEDhOCiZAOCChOhPkBeChSOdDhFIfEhMEfAhGDPhJkfBLFhFDhFDh",
     "JHhVKNAQAIADAMAQAIADChVLpYIXJJXHAhLAKiEHBCAhNADCCBYAiJHKhPUADEhCCcEchFhZDVBhTADEJAEAeBEDLGKG",
     "iBfhIDNIhXCeBcEbGFLIiPiKhWhUMhUGhPHLFhHCeHDmPhAAhLAEBDPHHKhAhPHhLVbhFdTYIiPDhFIiFJCBaGLFhWAT",
     "HhIIjBAVKTAhQhdIACAFAQAMFhcELFFAJBDBXAIADAGALBDBEBCFCEIBICGKLACBCAhHALACBCAFALADHDcidAGdiJHL",
     "lFhXBhHhBiGKLFOShbFLFVbcBQDYlYhdjDiULJBCBJADAfADBNILiFJBhPBMaiJHiUMiKGLiVJiXhDNLFKAhOAPJeChB",
     "BXAPiIIADAhNCCADAKHLFHADAhGADAHGLFhNDLnVaGSAhKCeiUCOhTM8cjFjQAGKmFiyLjEMhiXJj8cEyIm1Yhbh2Fxa",
     "GhAALDiSALFfBHJiHJLAIAWEUtPhbmFicEaBahLiMDhaGShfGKIInmXhIhBjAjUovcFAIADApEOCcEBCNFHsNioDjMEO",
     "CKGLBJj6bneCtVFYOSOhPBYIjVhbnXJhIBmDUiHjZVLVLiYIakGiWAiIADBCBDBFANACAIAiCAFBJAIAdAFAGACCIAqV",
     "BpFB1fOGAQhiPhAFHmUIASBIADAGEhfhACjPhOCPBLDDpfhAQhbECuPhLmVhMDClfhAAXHDmfIAFADAQAmGBRhIiNDLD",
     "D4QiFiLhemBFAcADACBCALAFACACFCDCACACAEADACBCACACACACADACBFAIAFAFACALASEEAGAShTDoNhNDjFLQBQAQ",
     "AhGJlPhXeMhNDKGDNHkZ+aCSCOCmbFNDCONDhZHLFhJHfBNDDNKhGqZHPBOCMChaACDRBNDLGkUAjIhgEhp3BfkofBl0",
     "PBnpSOzPitBwfhvBk6MEopL1y8GCdjBjfnRl-wP"])]

/-- The scripts whose script extensions hold other code points than the script does. -/
def scriptExtensionTable : List (List String × List String) := [
  (["adlm", "adlam"],
    ["hwfAhBAmwPAjvSAju1fiLFJFB"]),
  (["aghb", "caucasianalbanian"],
    ["4EAhNAhNAiguShTMA"]),
  (["arab", "arabic"],
    ["hwAECmWChBiRhPnRhBGiKCcl6QAjvSAhzoPzfhBPjRECkG-Ebi7FeiEFJIhCFh34BDCaCBCADACJCDCACAHAFACACACC",
     "CBCADACACACACACBCADDCGCDCDCACJCQGCCECQhVB"]),
  (["armn", "armenian"],
    ["4IAxJhFDhRDCh9sEE"]),
  (["avst", "avestan"],
    ["lXArrZBh3mPhVEG"]),
  (["beng", "bengali"],
    ["1cAh0VBSBbDCHDBDVCGCAEDDIDBDDJAFBCEDYk2SACADBCAJAJADAFADChi-aA"]),
  (["bopo", "bopomofo"],
    ["2HACCOARBroWCFJCMLDDAHAmEAKhKjRfhzkGBobE"]),
  (["bugi", "buginese"],
    ["mwAbDBhj9QA"]),
  (["buhd", "buhid"],
    ["l5VBKT"]),
  (["cakm", "chakma"],
    ["ivGJhyRJiglXhUCR"]),
  (["cari", "carian"],
    ["lXAn9DADAjuUAh1jPhQ"]),
  (["cher", "cherokee"],
    ["4ACCAHBXBMBkjPiVDFhl7TiP"]),
  (["copt", "coptic", "qaac"],
    ["lXAyJAEBCAjNBjNNqkRjTGGoYAh1mJb"]),
  (["cpmn", "cyprominoan"],
    ["igoABr0PjC"]),
  (["cprt", "cypriot"],
    ["igoACFhMEIh2BFDAChLCBEADA"]),
  (["cyrl", "cyrillic"],
    ["1cAiECCACACADAGAnPpPl6RKlBAiNAkAAj-IfiEA9-dif18PBh4wBhdhCA"]),
  (["deva", "devanagari"],
    ["1cAhyEiSDhKk6RhGCB-XAhh6AJlHf8wBJ"]),
  (["dogr", "dogra"],
    ["irELhn2BJ7+Hhb"]),
  (["dupl", "duployan"],
    ["lXAyQBCAZBq4YAjjuEjKGMEIIJDH"]),
  (["elba", "elbasan"],
    ["lXAyOAigvbhH"]),
  (["ethi", "ethiopic"],
    ["4OAj3SiICDDGCACDDhICDDhACDDGCACDDOChYCDDiCDfEZmvHWKGCGCGCGCGCGCGCG-pDFDFDFKGCGivlSGCDCBCO"]),
  (["gara", "garay"],
    ["hwMAPAEAih5BhFEcJB"]),
  (["geor", "georgian"],
    ["lXAhmSAi4XhFCAGADhPi8RhKDC8bAjlGhFCAGAoEA"]),
  (["glag", "glagolitic"],
    ["lXAyMACArfADAoCAi7SAj6fAi9GifvEA+hMAiusRGCQDGCBCE"]),
  (["gong", "gunjalagondi"],
    ["lXAilNBik-bFCBChECBCFIJ"]),
  (["gonm", "masaramgondi"],
    ["irEBik8bGCBChLEACBCIJJ"]),
  (["goth", "gothic"],
    ["lXAyNBDAhJAh--fa"]),
  (["gran", "grantha"],
    ["iqRBSB0BNkmdACBfCEB-XAh8wQDCHDBDVCGCBCECJDBDCDAHAGGDGEEjicBCA"]),
  (["grek", "greek"],
    ["lXAyJBDACACALAhPADAhLHDDCAFACACCCACTChePPmpHEhTEFEiVCpfVDFDhFDFDHCACACACeDhUCOCNDFCSDCCIifAm",
     "JAhixfA1ubiOSAh0jAiF"]),
  (["gujr", "gujarati"],
    ["iqRBSBocCCICCCVCGCBCEDJCCCCDAQDDLIGhnpRJ"]),
  (["gukh", "gurungkhema"],
    ["irFAi18bhZ"]),
  (["guru", "gurmukhi"],
    ["iqRBSBkcCCFFBDVCGCBCBCBDACEFBDCEAIDCAIQhntaJ"]),
  (["hang", "hangul"],
    ["koAnfnwCCFJCMPCHAmEAhWidjSeiCe93Cc0Eq9DNWFhQpyKBobEhbeEFDFDFDC"]),
  (["hani", "han"],
    ["lXAruJZCiYNmVbPCCCMCMCMDAHIlcAkVPhBhFKAhRhHhZhQQLhUAiZYLEjBeCmtfiB0vfh4BH0vZrNDjJ7MBobE8jdBN",
     "G47KRn2fBjtPhp2fhBkodDl0NDnpQQzNitDwdhvDk6KGopJ"]),
  (["hano", "hanunoo"],
    ["l5AW"]),
  (["hebr", "hebrew"],
    ["4HB0JhWJaFFh9pJZCECACBCBCJ"]),
  (["hira", "hiragana"],
    ["sgBCFJCMRFCAFBEiVDHibBhzqJBobELAhOBhsjCoeTAeCwlOA"]),
  (["hung", "oldhungarian"],
    ["oiaADAjuUAQAh3xfhSOhSIF"]),
  (["java", "javanese"],
    ["hqsAiNCKFB"]),
  (["kali", "kayahli"],
    ["hqoAhP"]),
  (["kana", "katakana"],
    ["4FAeArmeCFJCMRFCAFBicDEifnRPmRhOCiXhy3OBobhehsiRDCGCBCApAChTAPD"]),
  (["khoj", "khojki"],
    ["i3GJhnqBJ6uHRChO"]),
  (["knda", "kannada"],
    ["iqRBSB4bMCCCWCJCEDICCCDIBGCCDDJCCj+dACBHAYACAhi5cF"]),
  (["kthi", "kaithi"],
    ["irGJpmCA+vfJ6iHiCLA"]),
  (["latn", "latin"],
    ["iBZHZhQANADAGWCeCuAEALACCCAKACAHEcOCBCAQCIBCBhHAGAFMoWBhmLBh9JAjgFhFHhQGDGMCiFhaAInfpQAiCAOA",
     "RMiUAhaBHAcAShIi2YfsYA+nJHbjFEiRVOpPAwChKCICDz8XGhgbZHZihGFChJCIh16GeHF"]),
  (["limb", "limbu"],
    ["irFAj8beCLFLFAEL"]),
  (["lina", "lineara"],
    ["igoHhMhmNpWKVLH"]),
  (["linb", "linearb"],
    ["iggALCZCSCBCODNhDjaGCFhMEI"]),
  (["lisu"],
    ["1cARArpdB9mFhP+1RA"]),
  (["lyci", "lycian"],
    ["oiaAh4xGc"]),
  (["lydi", "lydian"],
    ["lXArraAh23PZGA"]),
  (["mahj", "mahajani"],
    ["lXAilNLhn2BJ6oXhG"]),
  (["mand", "mandaic"],
    ["hyAAwAbDA"]),
  (["mani", "manichaean"],
    ["hyAAihkAhGFL"]),
  (["mero", "meroitichieroglyphs"],
    ["oidAh6pDf"]),
  (["mlym", "malayalam"],
    ["iqRBSB8bMCCChSCCCFFPDZj6bAYAhi5eC"]),
  (["modi"],
    ["hqhQJ7uHiEMJ"]),
  (["mong", "mongolian"],
    ["mgAZHiYIhKh8FAj+SBGDh5yVM"]),
  (["mult", "multani"],
    ["izGJiigRGCACDCOCK"]),
  (["mymr", "myanmar"],
    ["kgAkfhmkPAlSejCf7iRT"]),
  (["nand", "nandinagari"],
    ["iqRATB8BJj-aAJAIAhi5WF8rLHDhNDK"]),
  (["newa"],
    ["iqRBk8DACBKAHACACAh94TibCE"]),
  (["nkoo", "nko"],
    ["hwMAPAEAtBhaDCh9pfB"]),
  (["onao", "olonal"],
    ["irEBj3jLhKFA"]),
  (["orkh", "oldturkic"],
    ["oiaAjuWAh3uQiI"]),
  (["orya", "oriya"],
    ["iqRBSBscCCHDBDVCGCBCEDIDBDCICFBCEDRkrDAYA"]),
  (["osge", "osage"],
    ["4BADAHAiNAigqYhDFhD"]),
  (["ougr", "olduyghur"],
    ["hyAAihlSAhjeZ"]),
  (["perm", "oldpermic"],
    ["lXAyJAGCLArQAh-2NhK"]),
  (["phag", "phagspa"],
    ["mgCBCAihKAj+TA+hehX"]),
  (["phlp", "psalterpahlavi"],
    ["hyAAihqARIDNG"]),
  (["rohg", "hanifirohingya"],
    ["hwMAPAEAhBAkUAihxMhHJJ"]),
  (["runr", "runic"],
    ["l1AiY"]),
  (["samr", "samaritan"],
    ["igAhNDOpvTA"]),
  (["shaw", "shavian"],
    ["lXAig8ZhP"]),
  (["shrd", "sharada"],
    ["iqRAk8GACADBDAKADAhi6DFDA6qIifisBH"]),
  (["sind", "khudawadi"],
    ["irEBhn2LJ6zXhaGJ"]),
  (["sinh", "sinhala"],
    ["irEBhgcCCREXCICADGEAFFCACHHJDCj3eAh9nPT"]),
  (["sogd", "sogdian"],
    ["hyAAiinQhJ"]),
  (["sunu", "sunuwar"],
    ["4ABCAKADAdAEAimkPhBPJ"]),
  (["sylo", "sylotinagri"],
    ["irEBkBJhnwRhM"]),
  (["syrc", "syriac"],
    ["4DBDBCAZCIBCB2bAPBDAhBALKbAkQNChbDCoRKlsOACA"]),
  (["tagb", "tagbanwa"],
    ["l5VBhKMCCCB"]),
  (["takr", "takri"],
    ["irEBhn2LJ7yHhZHJ"]),
  (["tale", "taile"],
    ["4ABGBEAjpUJioHdDE"]),
  (["taml", "tamil"],
    ["iqRBSBwdBCFECCDEBCACBEBECELFEECCDDAHAPUknAAhjgZA6wOACAhYBjkEhROA"]),
  (["tang", "tangut"],
    ["r-QPvQAivvRAhAm3fwBejCjS"]),
  (["telu", "telugu"],
    ["iqRBSB0bMCCCWCPDICCCDIBCCCBDDDJIIkiWBCACAYA"]),
  (["tfng", "tifinagh"],
    ["4CACACDaAqwNhXIBPA"]),
  (["tglg", "tagalog"],
    ["l4AVKAWB"]),
  (["thaa", "thaana"],
    ["hwMAPBDAiBJoXhRh9yBALA"]),
  (["thai"],
    ["1cAbAhMAhOAi2QhZGb"]),
  (["tibt", "tibetan"],
    ["j4AiHChDFhGChDCOCGFBohOD"]),
  (["tirh", "tirhuta"],
    ["iqRBSBk7QANAQAhi5eJ7iHiHJJ"]),
  (["todr", "todhri"],
    ["4BADADAKACAiLAigzChT"]),
  (["toto"],
    ["1cAj3+Ue"]),
  (["tutg", "tulutigalari"],
    ["jnGJkgDACAhi5cFlcA60PJCADAChFCJCADACDCJCBJB"]),
  (["yezi", "yezidi"],
    ["hwMAPAEAiBJiigXhJCCDB"]),
  (["yiii", "yi"],
    ["sgBBGJDHnAA74FhkMEhW20bE"]),
  (["zinh", "inherited", "qaai"],
    ["4PADACOEGDADPCBCRCECDhvRBkqchNDL2XhVCACEwNBmDfh3oRPRN+QAhzoDhNDWxBCSHDGfD4r6TnP"]),
  (["zyyy", "common"],
    ["AiAbFbhOCLCBCEYAhAAuCCCJCAEACICACFGEDTjfAHACAzeAmYAwFAhqdAsWDkhILDhACeCJCBCGCKEKCOShBhfhFCCD",
     "FCaCQhKCF0ZXKW8foBzTDkJwBWCXDJCDCACZtDAEAOAOAWAwSXhAAhSONDlCJGifhAAmuBhf2oJZjHC+RAPB01FJXUDL",
     "CSCDkUACfbFbFkAGCGLEsTMhUhMhywEncEtTHWQQjAjThdnVLhGDhdEQJBIdFhcmWTNTNiWcGkIiUCiGCBDADBDDCLCA",
     "CGCiACDDHCGCbCDCECAEGCqTDpDDhRljSiDiNhc2DhLFjDNODOCOChELlNhZZCBOhLFIYFkb+YEQEMEmZHLFAQLFhXJJ",
     "HhHJdDLFBPIhIqXJNDMEKEhYCAFPDLFJIkSCjG4hgHAfif"])]

/-- The code points of a script. -/
def script? (name : String) : Option CharSet :=
  (scriptTable.find? (fun row => row.1.contains name)).map (fun row => CharSet.unpack row.2)

/-- The code points that a script uses. -/
def scriptExtensions? (name : String) : Option CharSet :=
  match scriptExtensionTable.find? (fun row => row.1.contains name) with
  | some row => some (CharSet.unpack row.2)
  | none => script? name

end ThreatMarker.Unicode
