import ThreatMarker.Unicode.Packed
/-
# Binary properties

The properties of the character database that a code point has or has not.
-/

namespace ThreatMarker.Unicode

set_option autoImplicit false

/-- The names of each binary property and the code points that have it, packed. -/
def propertyTable : List (List String × List String) := [
  (["ahex", "asciihexdigit"],
    ["hQJIFbF"]),
  (["alpha", "alphabetic"],
    ["iBZHZhQALAFAGWCeCuJFLPEIACAiXAeRCBDDCAHACCCACTCiSCkKJlFChFDAHhIhINCACBCBCAJaFDeKGhXCGPjFCHFH",
     "FCLCDARhPOjEZhAKBFAGXDSUYIKGXCGIAJhJLLEGHiLCPCCFOOSCHDBDVCGCAEDEHDBDBCAJAFBCENBLAFCCFFBDVCGC",
     "BCBCBFEFBDBFAIDCASFMCCICCCVCGCBCEEICCCBEAQDWDFCCHDBDVCGCBCEEHDBDBKBFBCEOARBCFECCDEBCACBEBECE",
     "LFEECCCEAHAhJMCCCWCPEHCCCCJBCCCBDDdDCHCCCWCJCEEHCCCCJBGCCDOCNMCCChIDHCCCCCAGDIEXFCCCREXCICAD",
     "GJFCACHTBOhZGGHAhUBCACECXCACSCCDECAHAPDhBAiAHChDFSFPChDiEhWCADERhfLDDhFCAGADhKCqMCDDGCACDDhI",
     "CDDhACDDGCACDDOChYCDDiChGPRiVDFEzLDQCZGiKEKITMUNTNMCCCBNhTDSPAFAiEiYIhKGiFLeCLFIYdDEMhLFZhXb",
     "FheDThTAYBMChShTCOCHhUhJDDLhLCKPhWXCLhDDKGhKDChKDCFCBEAGlfUhBMoVDFDhFDFDHCACACACeDhUCGCAECCG",
     "EDDFFMGCCGjVAOARMjGAFADJCAEEHACACACDCKDDGEFAShI5OhTh4XnEHDEBNhFCAGADhXIARWKGCGCGCGCGCGCGCGCf",
     "hQAuWCaIIEDEFiVHCCiZCDGhKCidSfhRPwBmtfiB10MiEhNDoMEPLBVhOGHEjQhIIDjGDiRVUChAZhTNiDCAhNFEACCL",
     "hAGhCOcEhSCLQARPLEChWKNTWEiECACAZCDPDDMFDFDFKGCGChKCNHjaWq9DNWFhQooFrNDjJhHGNEGLCMCECACBCBCj",
     "LhCrKThfDhVhJLjVECkGhFZHZMiYEFDFDFDChELCZCSCBCODNhDjaiGhUoMcEhQhQfOdGhKGdDhDFHCEhLkdThDFhDFh",
     "HJhTNKCOCGCBCKCOCGCBEhTNpWKVLHZFChJCIiGFDAChLCBEADWLWKeiCSCBLVLZHZhHhXHBiBDCBGHCCCchLcEchEHC",
     "bchVLVLSORjPiIhYhSOhSOhHhDbEAGWnbhJCBEBRFhTCEcLAJVhLRhPUcWKiFhMELhYKAOYYhSSDJhCEAKhfCDKBLACA",
     "hERChBDAHDhfGCACDCOCJIhYYDCHDBDVCGCBCEEHDBDBEAHAGGdJCADAChFCJCADACDCBEACAhNiBCCCDVCfiBDBCAlZ",
     "hVDGaFhDheCAEAhchVDAiIaDNWGlahYjIhfhAHDADHCBCdCBDBDDieHDhNDFCACBchSDJSiHGATiIjIHiZhAhAIChMCG",
     "CAhSdDVCNiKGCBChLEACBCCCADBZFCBChECBCDCAYhLoFWKQChIECjQAiQ8ZjHjOSmDiyNjAQhhPSFaj8aGyGm1ahOh2",
     "SxYIeSiOSdThPRDhAUGStRhMmUhfhBYDYhNiKFhYIQiBBCANGKnmVhKfjCjSoveDCGCBCpCQAeCDAPDJsLioFjKGMEII",
     "JFAl7CiUCiGCBDADBDDCLCACGCiACDDHCGCbCDCECAEGCqTDYCYCeCYCeCYCeCYCeCYCHh5VeHFmWGCQDGCBCEGhdhCA",
     "jRhMLGRAqCdThLvFbnFdDAmQeCVJBnBGCDCBCOCmEhciDEAEAhlVDCaCBCADACJCDCACAHAFACACACCCBCADACACACAC",
     "ACBCADDCGCDCDCACJCQGCCECQzVZHZHZjzXhp2fhBkodDl0NDnpQQzNitDwdhvDk6KGopJ"]),
  (["bidic", "bidicontrol"],
    ["hwcAmvSBbEhYD"]),
  (["bidim", "bidimirrored"],
    ["hIBTACAdACAeACAhOAQAjzfDh6eBisdBLBhXBPBlSAmBDEFEAEBEDCDCACAFIGACRGDKBCACHCfDDGAKBDSGBKEDBFXD",
     "PJDVBIBhheNiLADDCBCCGDGCENsUVDFCNJAIFEAFECBDEFACCDBLFDBNSCDDACADACDGBHCZBMBFDCBDBFhKDHChHGAC",
     "AEEGCFAEECAoBAwEDEBCBPBDJhMHtMJDHhzxeFGBlDBTACAdACAeACACBCBh17YAhaAhaAhaAhaA"]),
  (["ci", "caseignorable"],
    ["hHAHAMAhEACAiIAFACAFADBvYlfFBFAKBCAncGmQAGAhShMCACBCBCAhNAMFLKCAhEALURAjGHCJCDhCACAfaicKhbKF",
     "ADAZXhMChNAIBGIhKhZhYACAFHFAEGLBOAQAhbAFDJAVBbADBhaAFBFBDCEAfBEAMBhaAFECBFAVBXFCAhbADACDJAIB",
     "MBfAheANAhTAEAhYACCGCCDIBMBeAhbADAHAGBVBdBhaBFDJAVBeAiJAICCAibADGMIjDADIKACGiKBcACACAhYNCECB",
     "GKChDKAjHDCFCBDBaBFCRDOADBHAQAifAzBC9TCeBfBfBiBBCGJADKEAGAhOEhUAiCBhDAjXCFBKAHCmcBDAhbACGCAC",
     "ADHHJDAhIAJhNDLVDhRACECAGAhJINBhBDDBCChZACBEACChbHDBiBFiTCCMCGFAHAEBhTheOAhDjEteACCMCOCOCOBN",
     "EJBLADADEhSECJCAOARMhUhAi8MBjSCjeAQAjBfhQAuWAhFDEEGAieFieC74XAhnDFoPAjDDCJCAdDiRBPhBiPAYCjHD",
     "EBJAEAFAaBGAkYBbROAhHHaKhPChRADDDBSAWBiDFDBDBNAJAhEAMAhUACCDBGBCAcAPBGBCAjFEKCjaADAFAz5RAkUQ",
     "xePEANPhDADAlKAIAHAMAhEACAhQAhOBiEAWCwCAnDAkWEhgGFChJCIyHCCBGDhJCFAlGBxeDhHAbECApcBZAhVFiHKh",
     "SDjcAhXOhKADBLChSDDBDAFALAhTChFECHhfANBhVILDDAjACDACBHADAkeAEHWBhaBEAhGGEEiHFOACACAPBiWHDCCA",
     "YAiVFCAFBCBnPDHBCBcBiWHDACBjLACADFCAjGACADDCEoEICBoBBCAFAkRDDBFAhBJhJFDDJAKFDChPMCBmHACCCAmK",
     "GCFCAiTVDGCBCBjbFEACBCGCAiJBEACAiCAoaBMBhVEGACAYAlmWQHOrmJLECiuBEhcGKDvdChJBvDAiAQiBBCBOBv-d",
     "DCGCBjkfBCDkydhNDWxBCKPDGfDkVCh9chWFhRJAPAXECOhqRGCQDGCBCEGhdhCAlBNrRAheDvcEnfBnUADAIBGAKAuR",
     "GjOHi1QE4jgCAfifkBnP"]),
  (["cased"],
    ["iBZHZhQALAFAGWCeCmCCDFmPDhCIBfEjBAhLDDBDDCAHACCCACTCiSCkKJlFChFKhIi4YhFCAGADhKCD1BiVDFikDKGh",
     "KDCiBlfiBoVDFDhFDFDHCACACACeDhUCGCAECCGEDDFFMGCCGjVAOARMjGAFADJCAEEHACACACDCFFADDGEFASfEB5Sh",
     "Th4XnEHDEBNhFCAGA+oThNTdkFjFEDCiMVFCC5WhKCNHiPz6BGNEhgKZHZhlGiPjBhDFhDjVKCOCGCBCKCOCGCBuEADC",
     "ChJCIhmGhSOhSieVLVi4bhf1rBhfhBYDY5pNiUCiGCBDADBDDCLCACGCiACDDHCGCbCDCECAEGCqTDYCYCeCYCeCYCeC",
     "YCeCYCHh5VJCTHFoGhdikTiDh-NZHZHZ"]),
  (["cwcf", "changeswhencasefolded"],
    ["iBZibALWCHhBACACACACACACACACACACACACACACACACACACACACACACACACACACACADACACACACACACACACBCACACAC",
     "ACACACACACACACACACACACACACACACACACACACBCACACACBCACBCCDDCBCCEBCBCACACBCADACBCCCACBEAIBCBCBCAC",
     "ACACACACACACADACACACACACACACACADBCACCCACACACACACACACACACACACACACACACACACACACACACACACACACACAC",
     "ACAIBCBDACDCACACACAnXAhLACAEAJAHACCCACBCQCIXANCEBCACACACACACACACACACACACACBDBCACBDhShRACACAC",
     "ACACACACACACACACACACACACACAKACACACACACACACACACACACACACACACACACACACACACACACACACACACBCACACACAC",
     "ACADACACACACACACACACACACACACACACACACACACACACACACACACACACACACACACACACACACACACACACACACACACACAC",
     "ACACACADhFhRAi4ZhFCAGA5LFikDJHhKDCqBACACACACACACACACACACACACACACACACACACACACACACACACACACACAC",
     "ACACACACACACACACACACACACACACACACACACACACACACACACACACACACACACACACACACACACACACACACACACACACACAC",
     "AGBDACACACACACACACACACACACACACACACACACACACACACACACACACACACACACACACACACACACACACACACACACACACAC",
     "ACACACACAKHJFLHJHJFMACACACAJHRhPDCDFGCDFMDNEGCDFpKAEBHAhOPUA5TZh5RhPhRACCDACACACDCADAJCCACAC",
     "ACACACACACACACACACACACACACACACACACACACACACACACACACACACACACACACACACACACACACACACACACACACACACAC",
     "AJACAFA+qOACACACACACACACACACACACACACACACACACACACACACACAUACACACACACACACACACACACACACAkIACACACA",
     "CACACAEACACACACACACACACACACACACACACACACACACACACACACACACACACACACACACALACACBCACACACAFACADACAEA",
     "CACACACACACACACACACECECACACACACACACACDCACBCACACACACACACACAZA7biPz6BGNEhgKZhmGhHkJhDkdKCOCGCB",
     "h3LhSkeVi5bf1sBfiBY+yIhB"]),
  (["cwcm", "changeswhencasemapped"],
    ["iBZHZhbALWCeChfCiTCbDNDBCAFicCRHaCBCACBEBCDCEDACBDAIADACBEFGALBlHAhLDDBECCAHACCCACTChOEhACEC",
     "kEJlFChFLhGi4ZhFCAGADhKDC1BiVDFikDKGhKDClaAEARAjSkbDACjVDFDhFDFDHCACACACeDhUCGCAECCGEDDFFMGC",
     "CGpKAEBHAcASfEB5ShTh4XjQCBCBIjFIDEBNhFCAGA+oThNTbkHNDhdKOECDECYChMZB6dAdiPz6BGNEhgKZHZhlGiPj",
     "BhDFhDjVKCOCGCBCKCOCGCBh2EhSOhSieVLVi4bhf1rBhfhBYDY+xNiD"]),
  (["cwl", "changeswhenlowercased"],
    ["iBZjGWCGhCACACACACACACACACACACACACACACACACACACACACACACACACACACACADACACACACACACACADACACACACAC",
     "ACACACACACACACACACACACACACACACACACACBCACAEBCACBCCDDCBCCEBCBCACACBCADACBCCCACBEAIBCBCBCACACAC",
     "ACACACACADACACACACACACACACADBCACCCACACACACACACACACACACACACACACACACACACACACACACACACACACACACAI",
     "BCBDACDCACACACApCACAEAJAHACCCACBCQCIhEAJACACACACACACACACACACACAGADACBDhShRACACACACACACACACAC",
     "ACACACACACACACAKACACACACACACACACACACACACACACACACACACACACACACACACACACACBCACACACACACADACACACAC",
     "ACACACACACACACACACACACACACACACACACACACACACACACACACACACACACACACACACACACACACACACACACACACADhFi6",
     "KhFCAGA2TiVikUAHhKDCqBACACACACACACACACACACACACACACACACACACACACACACACACACACACACACACACACACACAC",
     "ACACACACACACACACACACACACACACACACACACACACACACACACACACACACACACACACACACACACACACACAKACACACACACAC",
     "ACACACACACACACACACACACACACACACACACACACACACACACACACACACACACACACACACACACACACACACACACACAKHJFLHJ",
     "HJFMACACACAJHZHJHJHJEMEMDNEMEpKAEBHAhOPUA5TZh5RhPhRACCDACACACDCADAJCCACACACACACACACACACACACA",
     "CACACACACACACACACACACACACACACACACACACACACACACACACACACACACACACACACACACACACAJACAFA+qOACACACACA",
     "CACACACACACACACACACACACACACACACACACAUACACACACACACACACACACACACACAkIACACACACACACAEACACACACACAC",
     "ACACACACACACACACACACACACACACACACACACACACACACACACALACACBCACACACAFACADACAEACACACACACACACACACAC",
     "ECECACACACACACACACDCACBCACACACACACACACAZA15MZhmGhHkJhDkdKCOCGCBh3LhSkeVi5bf1sBfiBY+yIhB"]),
  (["cwt", "changeswhentitlecased"],
    ["jBZhbAhKXCHCACACACACACACACACACACACACACACACACACACACACACACACACACACACADACACACACACACACBCACACACAC",
     "ACACACACACACACACACACACACACACACACACACADACACCDACADAEAGADAECDADACACADAFADAEACADAEACAFACBCBCACAC",
     "ACACACACACACBCACACACACACACACACCCACAEACACACACACACACACACACACACACACACACACACACAEACACACACACACACAC",
     "AJADBCAFACACACACFCBCACBEBCDCEDACBDAIADACBEFGALBlHAhMACAEAECTAchCCBECCACACACACACACACACACACACE",
     "CADADAhVhPCACACACACACACACACACACACACACACACACAKACACACACACACACACACACACACACACACACACACACACACACACA",
     "CACACADACACACACACACBCACACACACACACACACACACACACACACACACACACACACACACACACACACACACACACACACACACACA",
     "CACACACACACACACACACACACAhShGjzRFikDICAnPAEARAjTACACACACACACACACACACACACACACACACACACACACACACA",
     "CACACACACACACACACACACACACACACACACACACACACACACACACACACACACACACACACACACACACACACACACACACACACACA",
     "CACACACACACGGACACACACACACACACACACACACACACACACACACACACACACACACACACACACACACACACACACACACACACACA",
     "CACACACACACACACIJFLHJHJFLHJHJNDHJHJHJECBHAECCBJDDBJHLCCBqXAhCPFA6MZh6HhPCAEBCACACAHADALACACA",
     "CACACACACACACACACACACACACACACACACACACACACACACACACACACACACACACACACACACACACACACACACACACACACACA",
     "CAJACAFANhFCAGA+oUACACACACACACACACACACACACACACACACACACACACACACAUACACACACACACACACACACACACACAk",
     "IACACACACACACAEACACACACACACACACACACACACACACACACACACACACACACACACACACACACACACALACADACACACACAFA",
     "FACBDACACACACACACACACACAMACACACACACACACAFACADACACACACACACACAbA6dAdiPz6BGNEhhKZhmOhHkJhDkcKCO",
     "CGCBh4EhSjeVi5bf1sBfhcY+yPhB"]),
  (["cwu", "changeswhenuppercased"],
    ["jBZhbAhKXCHCACACACACACACACACACACACACACACACACACACACACACACACACACACACADACACACACACACACBCACACACAC",
     "ACACACACACACACACACACACACACACACACACACADACACCDACADAEAGADAECDADACACADAFADAEACADAEACAGBCBCBCACAC",
     "ACACACACACBCACACACACACACACACBCBCAEACACACACACACACACACACACACACACACACACACACAEACACACACACACACACAJ",
     "ADBCAFACACACACFCBCACBEBCDCEDACBDAIADACBEFGALBlHAhMACAEAECTAchCCBECCACACACACACACACACACACACECA",
     "DADAhVhPCACACACACACACACACACACACACACACACACAKACACACACACACACACACACACACACACACACACACACACACACACACA",
     "CACADACACACACACACBCACACACACACACACACACACACACACACACACACACACACACACACACACACACACACACACACACACACACA",
     "CACACACACACACACACACACAhShGi6JhKDC3ZFikDICAnPAEARAjTACACACACACACACACACACACACACACACACACACACACA",
     "CACACACACACACACACACACACACACACACACACACACACACACACACACACACACACACACACACACACACACACACACACACACACACA",
     "CACACACACACACACGGACACACACACACACACACACACACACACACACACACACACACACACACACACACACACACACACACACACACACA",
     "CACACACACACACACACACIJFLHJHJFLHJHJNDhUCBFACAECCBFAEDDBJHLCCBFAqSAhCPFA6MZh6HhPCAEBCACACAHADAL",
     "ACACACACACACACACACACACACACACACACACACACACACACACACACACACACACACACACACACACACACACACACACACACACACAC",
     "ACACACAJACAFANhFCAGA+oUACACACACACACACACACACACACACACACACACACACACACACAUACACACACACACACACACACACA",
     "CACAkIACACACACACACAEACACACACACACACACACACACACACACACACACACACACACACACACACACACACACACALACADACACAC",
     "ACAFAFACBDACACACACACACACACACAMACACACACACACACAFACADACACACACACACACAbA6dAdiPz6BGNEhhKZhmOhHkJhD",
     "kcKCOCGCBh4EhSjeVi5bf1sBfhcY+yPhB"]),
  (["dash"],
    ["hNAhqdAhUAjyCAhgGAigKFheAhIAQAsHAjgFADAhABFAdAtfAUAjQAhzsRBhGALAlKAjzBApfA"]),
  (["di", "defaultignorablecodepoint"],
    ["lNA1CA2NAi6DBhyUBiWEh-cEbEhSPknVAhzkcPnQAlBAiQIhvlIDlmQH4r0Gj-f"]),
  (["dep", "deprecated"],
    ["qJAhpKAioEACAihKBimGF1aB73mXA"]),
  (["dia", "diacritic"],
    ["ieACAiIAHAFADBvYkeCHGFSBFAKBneEmSAhYhMCACBCBCAkEHFBkHBFBECiEaicKhbKhDBjfHhKJRbheARAEDdAiLARA",
     "jPARAjPARAhQChdARAIAjYAjPARAjPARAjOBRAjdAjQANFCAjMAOEiMBcACACAFBiDCCBhfAjRACBhJBFEaGCALB2CC9",
     "VBfAkVKKAqcCpFAVHDAhRODKEODLiJAQAhHIhXBhbAMBiDBiBFiTYFAHADChThehRhDGLhGKteACCMCOCOCOBjnRCpeA",
     "vbFjKDjAA9rTANBCAdBiTBPhBjHCjHAHBNAhGAkYAcRhaDhFAjAANAhFAkWCiCDhUAjFEKCkBBz5RA4CPoPACAhQAhOB",
     "iEA3dAhlAFChJCIzeCFAlGBxcFhHAbEsNADCiHKhSDmBAhKAiJBjZBhfAiNAKCjJBlTBiRBRAZGEEiaCCBOBjAAEAjcB",
     "ncBjfAjXBjUAoOBoDBFAkdAiUATAiSAtGAoDACBiSAiCArIBYAlnNOrmaAiuBEhcGxVBxDQiRBv-fDCGCBn4ChNDWxBC",
     "EFJHDGfDj0DhdmDGrYAheD3fB3BGjOCCC"]),
  (["emoji"],
    ["hDAHAGJjQAFAn8OANAmZAXAibFQBrQBNAlHAaKFCmIAnIBLAKAhbDCEKADADBDAFADACBDAEAEBJCGACAGLMBDACBCAT",
     "ADBTFCACBEBGADBFBMBGBDAGBCACBVBGFCDDAFADADFCADACACAHAEAHALBQADAFACAFCCAMBhRCKAPAPArVBuQCUBhU",
     "AFAhmbANAyaACAjvrLAmLAlBBNBPADJiMZCBYAVADIWBlPhBDjPDBCCDiSDCCoGCheMFCXIBDHNADDDAFBOBDAJBKAGC",
     "NCJCDACAFAHAEAHiVhRiFGHDDEJEACBEADJnELFAochOCJClYjRMEKEhYCAFPDLFJ"]),
  (["ecomp", "emojicomponent"],
    ["hDAHAGJn+UAmWAh3pMAh8+XZvcEhtRD4hzNif"]),
  (["emod", "emojimodifier"],
    ["j8-bE"]),
  (["ebase", "emojimodifierbase"],
    ["pwdAmcARDjzjYAhdCDADCjWBDKWSEAFCCCIACAZAmKBFAWAFBlPCEEiUARCKAMAyAADAJHHAKJDChZAheBCBCASCCMnG",
     "ChLI"]),
  (["epres", "emojipresentation"],
    ["o4aBmODEADAwKBWBhTLhMAUAOAJBSBGBJAGAWAIBCAFADAIAFBdAhEACAFCCAheCZAPA6cBhUAFAjxlPAmLAlfADJiMZ",
     "CAZAVADECCWBlPhANICiFCVNhKFENQEAEiGCAClaDheODCXTAbBOAiXiUhRiFHAECDDEDMBIInELFAochOCJClYjRMEK",
     "EhYCAFPDLFJ"]),
  (["extpict", "extendedpictographic"],
    ["lJAFAn8OANAmZAXAibFQBrQBNAlHAaKFCmIAnIBLAKAhbDCEKADADBDAFADACBDAEAEBJCGACAGLMBDACBCATADBTFCA",
     "CBEBGADBFBMBGBDAGBCACBVBGFCDDAFADADFCADACACAHAEAHALBQADAFACAFCCAMBhRCKAPAPArVBuQCUBhUAFAhmbA",
     "NAyaACAjvrLAhIDjFLQBQAPBhGJjRBNBPADJUhXcOLAVADICDKWHlbDjPDBCCDiSDCCDGndCheMFCXIBDHNADDDAFBOB",
     "DAJBKAGCNCJCDACAFAHAEAHiVhRiFGHDQEACFDMmbhFNDhZHLFhJHfBNDDNKhGNhOCJClYiZHPkRoB-d"]),
  (["ext", "extender"],
    ["lXAwZB7PAtaAzXAkKAiaA3RAkAAiqEAhZAzEAsPAiFAk8KAhMEjIBieC74XAhvXA+DAXAkKAjNAWB1jcAigRBhuMAcAF",
     "AhmIApGAjVBvTChmQA6BAzrJBhkdBCAPB8qJBhlSA6VC"]),
  (["grbase", "graphemebase"],
    ["hAiehCMCyRjRHDFFGCACTCmfIlFChFDhRDChPACADADAKaFFSJMAChNWPCjEJAHBDAFfDACdeiYMAPhKKGEXFAKAEAIO",
     "CYGACKGfRhJhahWCACDJDCCIJDcCBCHDBDVCGCAEDEACBHBDBCAOBCCFXGACFFBDVCGCBCBCBFCZDCAIJDCCANACICCC",
     "VCGCBCEEDJACBEAQBFLIAJBCHDBDVCGCBCEEADAHBDBQBCCFRMACFECCDEBCACBEBECELGACBECCCEAWUHCCHCCCWCPE",
     "AEDUCCBDBFJIJCKCCCWCJCEEBDACBYCCBFJCCPKCCChIDACBGCCCCBFCCJFZDBCREXCICADGKBHGIJDCNhPCBMHJMhGB",
     "CACECXCACJCBKADECAKJDDhBXDaCACACNChDTAGADEhSHCFCMhGhMFAHADBDYDDEPFMCBDFCOChHCAGADrYCDDGCACDD",
     "hICDDhACDDGCACDDOChYCDDiCGcEZHiVDFD0cEiYIROSEBKRPMCCQhTDAIHCBMIEJHJHKGJHiYIEDhBCAGiFLeFDDCFB",
     "CFIAEhJDEMhLFZHKEhYDBEhXCAKACBJFOJHJHNiXhPLDEHCcKLDfFBHhXCADCCAOhPJBGOEhdGhKDKMAOAIDCFCCDAGl",
     "fiBoVDFDhFDFDHCACACACeDhUCOCNDFCSDCCICKGXIhQRBDaCMEhBhfkLF0ZXKWh4TDrYEBGhMCAGADhXIBQWKGCGCGC",
     "GCGCGCGCGhCidhDZCiYNmVbhZHPCiVFjEGhKCidCiVKhPC8zMEhWKqbVhOFALfDiPDFJmcVQCCCDCYDEFJHhXJiDLLZM",
     "ChFJYMANdHhPCBFBDBCMCKFGCYChIHBDBMCCHCADJDfChSCAEBDEDACAZQDHMFDFDFKGCGChbFjUCBCDEJHq9DNWFhQo",
     "oFrNDjJhHGNEGACXCECACBCBC0JhBPRJXhCCSCDFECkGFkcDeEFDFDFDCEGCGOBDLCZCSCBCODNhDjaGCFhMEiXCMEAh",
     "QhMkEcEhQRaFhDKdGhFLdChEFNhLkdDJHhDFhDFhHJhTMLCOCGCBCKCOCGCBEhTNpWKVLHZFChJCIiGFDAChLCBEADWC",
     "iHJIhRSCBGhAEaGahHhXFTDhOQDCCCcLIIIIhfhBhEHLKhVEcDaGZIDNGiRiIhYhSOhSIhJNJHhFJXJBmReChJEADBRF",
     "JIhIhHJVMIXRFDhHbVWKAChVQGFdCBDANhQFBDBCDPYIJKhDGAKRJhCCCMhTKACHFBCPCTMRCbEBFFCBiAGCACDCOCKH",
     "hOCCOJJBCHDBDVCGCBCEEACACDDBDBEANGdJCADAChFCACBQACBEACCCBhIhXJBEACUCACCfhPCBHACBCADADDJJlHhO",
     "CBHDDADahFhSJBCADDMJHMUhKCACBJBHJHTdaEACBFAKWlahOKADAjFiSNHDADHCBCXCECBHDCCKJiHHDhJJDCDcALhH",
     "HBFHKAHBEhNOADIOiIIJiYAEACAiZhBPJHIChFPACFLcEfaAIADAiMGCBChFWAKJHFCBChEFBCACAIJHhLFJnXSDDKOC",
     "hDJBEWiXAQhRO8ajHjOCEMmDiyNjCOhhPSFaj8aGyGm1adNCEJh2HxYIeCJFiQCJHdIALhPIOLJCGCUGStRhZmHiaGYD",
     "YhNiKGhXMMiBDPEKnmVhKfjCjSoveDCGCBCpCQAeCDAPDJsLioFjKGMEIIJDADAj7BncEtTHWQQjAjThdnVLhGDhbGCX",
     "BIdFhcWiBEAjbTNTNiWKYkIiUCiGCBDADBDDCLCACGCiACDDHCGCbCDCECAEGCqTDpDDxRhYDhTHCNCGhjVeHFoGhdkT",
     "hMLGDJFBqBdThLFJGAuRbFJmXdDKFAmBeCCCBCGDEKBnBGCDCBCOCmEDIhRiDIAFJFB4SiDiNhcmDDCaCBCADACJCDCA",
     "CAHAFACACACCCBCADACACACACACBCADDCGCDCDCACJCQGCCECQhVBoPhLFjDNODOCOChELlNhZcOhLFIIBPFkb+YEQEM",
     "EmZHLFAQLFhXJJHhHJdDLFBPIhIqXJNDMEKEhYCAFPDLFJIkSCjGhgGhp2fhBkodDl0NDnpQQzNitDwdhvDk6KGopJ"]),
  (["grext", "graphemeextend"],
    ["4AjPoUGoIhMCACBCBCAiJKhRURAjGGDFDBCDhEAfaicKhbIKAZDCICCCEhMChcIhLXCfhYACAFHFAEGLBeAhbACADDJA",
     "KALBbADBhaAFBFBDCEAfBEAMBhaAFECBFAVBXFCAhbACBCDJAICLBfAhcACANAKAhJAEAhYACCGCCDIBMBeAhbADBCAE",
     "CCDIBMBdBhaBCADDJAKALBeAiJAFADCCAJAiSADGNHjDADIMGiKBcACACAhYNCECBGKChDKAjHDCFCBDBaBFCRDOADBH",
     "AQA2AC9TDdCeBfBiBBCGJADKKAhOCCAjWBhDAjXCFBKAHCmcBDAhbACGCACADHHJDAhRhNDLVDhRJFChHINBhBDDFhZA",
     "CBEACEhZHDBkZCCMCGFAHAEBmHhfwNAmEhAi-fCkOAjBfxLFjKB9uVDCJhBBiRBoRAEAFAaBGAkYBbROAhHHaKCAhNCh",
     "RADDDBDAhFAiEFDBDBNAJAhQAhUACCDBGBCAhLBJAnPADAFAz5RA3CPRPrPByeAnDAkWEh0HCCBGDhJCFAlGBxeDiCEp",
     "eBiOFiHKhSDjcAhXOhKADBLChSDDBIAheChFECHhfANBhVICAJDDAjACDDHADAkeAEHWBhaBCACANAKAPGEEiEADFCAD",
     "ACCFCCAPBiWHDCCAYAiSADFCADACBCBnMADDHBCBcBiWHDACBjLACADHjGACADDCEoEICBnWALDFAkRDDBFAhBJhJFDD",
     "JAKFDChPMCBmHACCCAmKGCFCAiTVDGCBCBjbFEACBCGCAiJBEACAqcBMBhVEGCYAlnGAHOrmJLECiuBEhcGhgZAiADiS",
     "AMBzlMBkzChNDWwfEEFJHDGfDkVCh9chWFhRJAPAXECOhqRGCQDGCBCEjFAlBGrYAheDvdDnfBnUADAIBGAubGjOG4l2",
     "WifkBnP"]),
  (["hex", "hexdigit"],
    ["hQJIFbFh-1KJIFbF"]),
  (["idsb", "idsbinaryoperator"],
    ["r-QBDJvSA"]),
  (["idst", "idstrinaryoperator"],
    ["r-SB"]),
  (["idc", "idcontinue"],
    ["hQJIZFACZhQALACADAGWCeCuJFLPEIACASjUCBDDCAHECACTCiSCkKCEDlFChFDAHhIJhMCACBCBCAJaFDeKGiJFjFCH",
     "DJCSDARhaDjEPhVFADADhNTbFKGXCGIiKCkADJCSCHDBDVCGCAEDDIDBDDJAFBCEDLLACADCCFFBDVCGCBCBCBDACEFB",
     "DCEAIDCAIPMCCICCCVCGCBCEDJCCCCDAQDDJKGCCCHDBDVCGCBCEDIDBDCICFBCEDJCARBCFECCDEBCACBEBECELFEEC",
     "CDDAHAPJRMCCCWCPDICCCDIBCCCBDDDJRDCHCCCWCJCEDICCCDIBGCCDDJCCNMCCChSCCCEGDIEDJLFCCCREXCICADGE",
     "AFFCACHHJDBOhZGOCJhIBCACECXCACWDECACGCJDDhBAYBHJMACACAFJChDFTCRChDKAhaiJHiNDhFCAGADhKCqMCDDG",
     "CACDDhICDDhACDDGCACDDOChYCDDiCDCKIPPRiVDFEzLDQCZGiKEKIVKVMTNMCCCBNiTEAFBDJhCCCKHiYIhKGiFLeCL",
     "FLLhHDEMhLFZHKhGbFheCcDKHJOAJNCeDLViMEJSINjTNhXJJEhQDKGhKDCRCChGGwVDFDhFDFDHCACACACeDhUCGCAE",
     "CCGEDDFFMGCCGQBhSBUAdAOARMhUMFAELSAFADJCADFHACACACPDDGEFAShIizYnEHINhFCAGADhXIAQXKGCGCGCGCGC",
     "GCGCGCfwGCaOCEDEFiVDGCieGhKCidSfhRPwBmtfiB10MiEhNDoMEbVhPFJCjShGIDjGDiRVhWFAUhTNiFLJHXEAChQD",
     "hDNcEiAPKHeChWKNDJHWEiIZCDPDELFDFDFKGCGChKCNHjaCBDJHq9DNWFhQooFrNDjJhHGNEGLCMCECACBCBCjLhCrK",
     "ThfDhVhJLFPRPEBZChBECkGUJIZFACZLiZEFDFDFDChELCZCSCBCODNhDjaiGhUkJAkDcEhQQAhAfOdGhKGdDhDFHCEh",
     "LkdDJHhDFhDFhHJhTNKCOCGCBCKCOCGCBEhTNpWKVLHZFChJCIiGFDAChLCBEADWLWKeiCSCBLVLZHZhHhXHBiBDCBGH",
     "CCCcDCFAhBcEchEHCdahVLVLSORjPiIhYhSOhSOhHJJHhFEECWnbhJCBEBRFhThCLAJhAhAVhLUcWKiGhAPKhbIAOYIJ",
     "HhUCJFDJhDDAKiEFDCMCAhERChEHDhfGCACDCOCJIhaGJHDCHDBDVCGCBCECJDBDCDAHAGGDGEEMJCADAChFCJCADACD",
     "CHOBeiKGJFDfiFCAJJlHhVDIYFhDiAEAMJhHhYIJHTdaDOFJHGlahajGiJWHDADHCBCdCBDINJiHHDhNDHCBcheJAJiJ",
     "EATiIjIHiZhAQJHIChMCIQJZdDVCNiKGCBChLEACBCIJJHFCBChECBCFIJHhLFJnXWKQChIEEOKiWAiQ8ZjHjOSmDiyN",
     "jAQhhPRVLj8aGyGm1ahZh2HxYIeCJHiOCJHdDEMhWKDNJKUGStRhMEJmHhfhBYDYhNiKFhYIQiBBCBMGKnmVhKfjCjSo",
     "veDCGCBCpCQAeCDAPDJsLioFjKGMEIIJEBkiSJwHhNDWwfEEFJHDGfDkVCtciUCiGCBDADBDDCLCACGCiACDDHCGCbCD",
     "CECAEGCqTDYCYCeCYCeCYCeCYCeCYCHDhRwBhWFhRJAPAXECOhiReHFmWGCQDGCBCEGhdhCAjRhMENDJFAqCeShZuXhJ",
     "mXhKmGeCVJBnBGCDCBCOCmEMGhKiLFJhlHDCaCBCADACJCDCACAHAFACACACCCBCADACACACACACBCADDCGCDCDCACJC",
     "QGCCECQjpVJhgHhp2fhBkodDl0NDnpQQzNitDwdhvDk6KGopJ1zkHnP"]),
  (["ids", "idstart"],
    ["iBZHZhQALAFAGWCeCuJFLPEIACAkCECBDDCAHACCCACTCiSCkKJlFChFDAHhIiIaFDhOhKhEBCjCCAQBIBLCDARACdei",
     "YMAZhAKBFAGVFAKAEAYYIKGXCGRhJhbhVEATAIJQPFHDBDVCGCAEDEARAOBCCPBLAJFFBDVCGCBCBCBhADCAUCRICCCV",
     "CGCBCEEATAQBYAMHDBDVCGCBCEEAfBCCQASACFECCDEBCACBEBECELXAhVHCCCWCPEAbCCBDBfAFHCCCWCJCEEAfCCBQ",
     "BSICCChIDARAGCJCZFGREXCICADGhbhPCBNGhbBCACECXCACJCBKADECAWDhBAiAHChDcEjUhKVARFFDEAEBICFMNASh",
     "FCAGADhKCqMCDDGCACDDhICDDhACDDGCACDDOChYCDDiChGPRiVDFEzLDQCZGiKEKIROSPRPMCCQhThEAFAiEiYIhICA",
     "GiFLehSdDEMhLFZhXWKhUiTAiehOSHhXdOBLhLbhDhKCLhDDKGhKDChKDCFCBEAGlfiBoVDFDhFDFDHCACACACeDhUCG",
     "CAECCGEDDFFMGCCGjVAOARMjGAFADJCADFHACACACPDDGEFAShIizYnEHDEBNhFCAGADhXIARWKGCGCGCGCGCGCGCGxH",
     "CaIIEDEFiVFECiZCDGhKCidSfhRPwBmtfiB10MiEhNDoMEPLBVhOReDiPhIIDjGDiRVQCCCDCWehTPhRhfFEACBMbLWa",
     "cIhOdARECJLEChIYCCHVWEAEhRCAEBDEDACAZCDKICNFDFDFKGCGChKCNHjSeq9DNWFhQooFrNDjJhHGNEGACJCMCECA",
     "CBCBCjLhCrKThfDhVhJLjVECkGhFZHZMiYEFDFDFDChELCZCSCBCODNhDjaiGhUoMcEhQhQfOdGhFLdDhDFHCEhLkdTh",
     "DFhDFhHJhTNKCOCGCBCKCOCGCBEhTNpWKVLHZFChJCIiGFDAChLCBEADWLWKeiCSCBLVLZHZhHhXHBiBAQDCCCchLcEc",
     "hEHCbchVLVLSORjPiIhYhSOhSOhDhHbKWnbhJHBRFhZcLAJVhLRhPUcWNhUhaBDAOhMhBYbhDeADAJhCEANhPPDWACAh",
     "ERCYUBiAGCACDCOCJIhOhHHDBDVCGCBCEEATANEfJCADAChFCAaACAhNhUTDVCfhPVBCAlZhOhKDhFhPVAhchKOAiIah",
     "GGlahLjVhfhAHDADHCBCXQACAifHDhGRACAdALhHIAWAMhNUATiImIhAhAIChESAhSdjRGCBChFWAaFCBCfPAYhLoFSQ",
     "ACMChBjdAiQ8ZjHjOSmDiyNjAQhhPSFaj8aGyGm1adh3DxYIeSiOSdThPRDhAUGStRhMmUhfhBYDYhNiKGAiDMiBBCAP",
     "EKnmVhKfjCjSoveDCGCBCpCQAeCDAPDJsLioFjKGMEIIJl7HiUCiGCBDADBDDCLCACGCiACDDHCGCbCDCECAEGCqTDYC",
     "YCeCYCeCYCeCYCeCYCHh5VeHFoGhdkThMLGRAqCdThLvFbnFdDAmQeCCCBCGDEKBnBGCDCBCOCmEhciDIAhlVDCaCBCA",
     "DACJCDCACAHAFACACACCCBCADACACACACACBCADDCGCDCDCACJCQGCCECQkqFhp2fhBkodDl0NDnpQQzNitDwdhvDk6K",
     "GopJ"]),
  (["ideo", "ideographic"],
    ["sgGBaIPC+GmtfiB0vf2oBrNDjJ9oLAOEKnmVhKfjCjSo7esLzoFhp2fhBkodDl0NDnpQQzNitDwdhvDk6KGopJ"]),
  (["joinc", "joincontrol"],
    ["ogMB"]),
  (["loe", "logicalorderexception"],
    ["jyAEjcEi3RCDAhknbBDACB"]),
  (["lower", "lowercase"],
    ["jBZhQALAFAhFXCHCACACACACACACACACACACACACACACACACACACACACACACACACACACACBCACACACACACACACBCACAC",
     "ACACACACACACACACACACACACACACACACACACACACADACACCDACADAEBFADAECDADACACADACBCADAEACADBDCHADADAC",
     "ACACACACACACACBCACACACACACACACACBDACAEACACACACACACACACACACACACACACACACACACACACACACACACACACAC",
     "ACACGDADBCAFACACACACiEDhCIBfEjBAhMACAEADDTAchCCBECCACACACACACACACACACACACECADADBhUhPCACACACA",
     "CACACACACACACACACACACACACAKACACACACACACACACACACACACACACACACACACACACACACACACACACADACACACACACA",
     "CBCACACACACACACACACACACACACACACACACACACACACACACACACACACACACACACACACACACACACACACACACACACACACA",
     "CACACAhRhIi6IhKCD3ZFikDICAjWlfiCACACACACACACACACACACACACACACACACACACACACACACACACACACACACACAC",
     "ACACACACACACACACACACACACACACACACACACACACACACACACACACACACACACACACACACACACACACACACACACACACICAC",
     "ACACACACACACACACACACACACACACACACACACACACACACACACACACACACACACACACACACACACACACACACACACACACACAC",
     "ACIJFLHJHJFLHJHJNDHJHJHJECBHAECCBJDDBJHLCCBjaAOARMjOAEBEAcAFAFADBJDFAhCPFA6MZh6HhPCAEBCACACA",
     "FACBCHEACACACACACACACACACACACACACACACACACACACACACACACACACACACACACACACACACACACACACACACACACACA",
     "CACACACACACACBIACAFANhFCAGA+oUACACACACACACACACACACACACACACACACACACACACACACAUACACACACACACACAC",
     "ACACACACACCkGACACACACACACCCACACACACACACACACACACACACACACACACACACACACACACACACACACACACACACJCACA",
     "DACACACACAFACADACCCACACACACACACACACACAGAGACACACACACACACAFACADACACACACACACACAWDCACC5WhKCNHiPz",
     "6BGNEhhKZhmOhHkJhDkcKCOCGCBuEADCChJCIhoGhSjeVi5bf1sBfhcY5qHZbGCRbZbDCACGCKbZbZbZbZbZbZbZbZbb",
     "dYCFbYCFbYCFbYCFbYCFCAh5VJCTHFoGhdilVhB"]),
  (["math"],
    ["hLARChAAeACAhOAFAhGAhAA2ZCDAbBDCwQCmwOAcCMAEAOAPDWEMEiCMFAEBFETAFADJCADFHAEBDBCCCFENCAiFXCFC",
     "BFBFfCAHBPoLJDVBibAfaCAZAMGteBNJFFFBDBEEPACADFMHGBhaACAeDKCqRhfoBvfhRUDFhz+dA5YFCAlDARCeACAe",
     "ACAkEAHDjtCBhwrBAhoQiUCiGCBDADBDDCLCACGCiACDDHCGCbCDCECAEGCqTDpDDhRlwBDCaCBCADACJCDCACAHAFAC",
     "ACACCCBCADACACACACACBCADDCGCDCDCACJCQGCCECQhVBiufI"]),
  (["nchar", "noncharactercodepoint"],
    ["h-uQfwPBh--fBh--fBh--fBh--fBh--fBh--fBh--fBh--fBh--fBh--fBh--fBh--fBh--fBh--fBh--fBh--fB"]),
  (["patsyn", "patternsyntax"],
    ["hBOLGbDCAbDhDGCACBCACBFAFAEAYAhAAn4ZXJODSCJpS2PlBzVfhjLwBjfsCCFYQAhzoOBoGB"]),
  (["patws", "patternwhitespace"],
    ["JETAjFAn8JBZB"]),
  (["qmark", "quotationmark"],
    ["hCAFAkEAQAn6dHaBjwIAuKDOChzxCDleAFAibB"]),
  (["radical"],
    ["r0AZCiYNmV"]),
  (["ri", "regionalindicator"],
    ["j8vGZ"]),
  (["sterm", "sentenceterminal"],
    ["hBANARAhqKAkUClVAhMCnXAheACAEBpGBh3FB4XAFB4GAmHBkeBhOAGApbBrDDlDBLBDBeClcBiCB9FAYBKCjlQCpTAO",
     "AXBtOA9ndAoPBnEAEArfBiXBjAAkZBkUCkRBnaA0xHADBhcAEBlKANARAiCAi3VBhneEhNDleBjWDkACkCBHARBiZBCB",
     "jNApLBjWBrWBGOjKBnaCwGACAncBiYBtFB1VBiLBy5KBkGAiCBMAxKBpJAzwHAnvJA"]),
  (["sd", "softdotted"],
    ["jJBmFAoaAfAhVAVAqBAjDACAmoKAhUAOAEAkFAkeAtGAmXBi5TAjp9GBhTBhTBhTBhTBhTBhTBhTBhTBhTBhTBhTBhTB",
     "ikHApSBbA"]),
  (["term", "terminalpunctuation"],
    ["hBALACAMBEA5fAJAwCAhaAiJAPACClVAhMKCAnMBhXFCHhAAoGBhnVBlNAFFpYB4WH4GAjdCiIBkeCEAhIDDBpbBrDDl",
     "DBLBCCeClcEhfB9FAYBKCjlQCpTAOAFALACBEBtNB9ncBoOCnEErfBiXBjAAkYCkUCkAARBnaA0xHADBhaCCDlKALACA",
     "MBEAiCADAhhbAhRAhkHAmIApXBkZFiFFiaD9ZEhNDleGjRDkACkCBHARBiZEjNApLBjWCNBrHDEOjKBnaCwGACAncBiY",
     "BFBsfChOA0GBiLBhpMExvaBkGAiCCLAxKBpIBzwHAnvID"]),
  (["uideo", "unifiedideograph"],
    ["tgAmtfiB0vf2wPBCACBLACACBDCihuXhp2fhBkodDl0NDnpQQzNktDk6KGopJ"]),
  (["upper", "uppercase"],
    ["iBZjGWCGhCACACACACACACACACACACACACACACACACACACACACACACACACACACACADACACACACACACACADACACACACAC",
     "ACACACACACACACACACACACACACACACACACACBCACAEBCACBCCDDCBCCEBCBCACACBCADACBCCCACBEAIADADADACACAC",
     "ACACACACADACACACACACACACACADADACCCACACACACACACACACACACACACACACACACACACACACACACACACACACACACAI",
     "BCBDACDCACACACApCACAEAJAHACCCACBCQCIhEADCEACACACACACACACACACACACAGADACBDhShRACACACACACACACAC",
     "ACACACACACACACACAKACACACACACACACACACACACACACACACACACACACACACACACACACACACBCACACACACACADACACAC",
     "ACACACACACACACACACACACACACACACACACACACACACACACACACACACACACACACACACACACACACACACACACACACACADhF",
     "i6KhFCAGA2TiVikUAHhKDCqBACACACACACACACACACACACACACACACACACACACACACACACACACACACACACACACACACAC",
     "ACACACACACACACACACACACACACACACACACACACACACACACACACACACACACACACACACACACACACACACACAKACACACACAC",
     "ACACACACACACACACACACACACACACACACACACACACACACACACACACACACACACACACACACACACACACACACACACACAKHJFL",
     "HJHJFMACACACAJHiJDNDNDNEMDoHAFAECDCDAEEHACACACDDDLBGAbPUA5TZh5RhPhRACCDACACACDCADAJCCACACACA",
     "CACACACACACACACACACACACACACACACACACACACACACACACACACACACACACACACACACACACACACACACACACACACACAJA",
     "CAFA+qOACACACACACACACACACACACACACACACACACACACACACACAUACACACACACACACACACACACACACAkIACACACACAC",
     "ACAEACACACACACACACACACACACACACACACACACACACACACACACACACACACACACACALACACBCACACACAFACADACAEACAC",
     "ACACACACACACACACECECACACACACACACACDCACBCACACACACACACACAZA15MZhmGhHkJhDkdKCOCGCBh3LhSkeVi5bf1",
     "sBfiBY5qIZbZbZbACBDADBDDCHbZbBCDDHCGcBCDCECAEGcZbZbZbZbZbZfYhCYhCYhCYhCYhCAkpWhBigPZHZHZ"]),
  (["vs", "variationselector"],
    ["mgLCCAh5vRP6g3RnP"]),
  (["wspace", "whitespace", "space"],
    ["JETAjFAbAlvAAisAKeBGAhQAj9BA"]),
  (["xidc", "xidcontinue"],
    ["hQJIZFACZhQALACADAGWCeCuJFLPEIACASjUCBECCAHECACTCiSCkKCEDlFChFDAHhIJhMCACBCBCAJaFDeKGiJFjFCH",
     "DJCSDARhaDjEPhVFADADhNTbFKGXCGIiKCkADJCSCHDBDVCGCAEDDIDBDDJAFBCEDLLACADCCFFBDVCGCBCBCBDACEFB",
     "DCEAIDCAIPMCCICCCVCGCBCEDJCCCCDAQDDJKGCCCHDBDVCGCBCEDIDBDCICFBCEDJCARBCFECCDEBCACBEBECELFEEC",
     "CDDAHAPJRMCCCWCPDICCCDIBCCCBDDDJRDCHCCCWCJCEDICCCDIBGCCDDJCCNMCCChSCCCEGDIEDJLFCCCREXCICADGE",
     "AFFCACHHJDBOhZGOCJhIBCACECXCACWDECACGCJDDhBAYBHJMACACAFJChDFTCRChDKAhaiJHiNDhFCAGADhKCqMCDDG",
     "CACDDhICDDhACDDGCACDDOChYCDDiCDCKIPPRiVDFEzLDQCZGiKEKIVKVMTNMCCCBNiTEAFBDJhCCCKHiYIhKGiFLeCL",
     "FLLhHDEMhLFZHKhGbFheCcDKHJOAJNCeDLViMEJSINjTNhXJJEhQDKGhKDCRCChGGwVDFDhFDFDHCACACACeDhUCGCAE",
     "CCGEDDFFMGCCGQBhSBUAdAOARMhUMFAELSAFADJCADFHACACACPDDGEFAShIizYnEHINhFCAGADhXIAQXKGCGCGCGCGC",
     "GCGCGCfwGCaOCEDEFiVDBDCCieGhKCidSfhRPwBmtfiB10MiEhNDoMEbVhPFJCjShGIDjGDiRVhWFAUhTNiFLJHXEACh",
     "QDhDNcEiAPKHeChWKNDJHWEiIZCDPDELFDFDFKGCGChKCNHjaCBDJHq9DNWFhQooFrNDjJhHGNEGLCMCECACBCBCjLhC",
     "kKHmZThfDhVhJJHPRPEBZChCACAEACACACACjdUJIZFACZLiZEFDFDFDChELCZCSCBCODNhDjaiGhUkJAkDcEhQQAhAf",
     "OdGhKGdDhDFHCEhLkdDJHhDFhDFhHJhTNKCOCGCBCKCOCGCBEhTNpWKVLHZFChJCIiGFDAChLCBEADWLWKeiCSCBLVLZ",
     "HZhHhXHBiBDCBGHCCCcDCFAhBcEchEHCdahVLVLSORjPiIhYhSOhSOhHJJHhFEECWnbhJCBEBRFhThCLAJhAhAVhLUcW",
     "KiGhAPKhbIAOYIJHhUCJFDJhDDAKiEFDCMCAhERChEHDhfGCACDCOCJIhaGJHDCHDBDVCGCBCECJDBDCDAHAGGDGEEMJ",
     "CADAChFCJCADACDCHOBeiKGJFDfiFCAJJlHhVDIYFhDiAEAMJhHhYIJHTdaDOFJHGlahajGiJWHDADHCBCdCBDINJiHH",
     "DhNDHCBcheJAJiJEATiIjIHiZhAQJHIChMCIQJZdDVCNiKGCBChLEACBCIJJHFCBChECBCFIJHhLFJnXWKQChIEEOKiW",
     "AiQ8ZjHjOSmDiyNjAQhhPRVLj8aGyGm1ahZh2HxYIeCJHiOCJHdDEMhWKDNJKUGStRhMEJmHhfhBYDYhNiKFhYIQiBBC",
     "BMGKnmVhKfjCjSoveDCGCBCpCQAeCDAPDJsLioFjKGMEIIJEBkiSJwHhNDWwfEEFJHDGfDkVCtciUCiGCBDADBDDCLCA",
     "CGCiACDDHCGCbCDCECAEGCqTDYCYCeCYCeCYCeCYCeCYCHDhRwBhWFhRJAPAXECOhiReHFmWGCQDGCBCEGhdhCAjRhME",
     "NDJFAqCeShZuXhJmXhKmGeCVJBnBGCDCBCOCmEMGhKiLFJhlHDCaCBCADACJCDCACAHAFACACACCCBCADACACACACACB",
     "CADDCGCDCDCACJCQGCCECQjpVJhgHhp2fhBkodDl0NDnpQQzNitDwdhvDk6KGopJ1zkHnP"]),
  (["xids", "xidstart"],
    ["iBZHZhQALAFAGWCeCuJFLPEIACAkCECBECCAHACCCACTCiSCkKJlFChFDAHhIiIaFDhOhKhEBCjCCAQBIBLCDARACdei",
     "YMAZhAKBFAGVFAKAEAYYIKGXCGRhJhbhVEATAIJQPFHDBDVCGCAEDEARAOBCCPBLAJFFBDVCGCBCBCBhADCAUCRICCCV",
     "CGCBCEEATAQBYAMHDBDVCGCBCEEAfBCCQASACFECCDEBCACBEBECELXAhVHCCCWCPEAbCCBDBfAFHCCCWCJCEEAfCCBQ",
     "BSICCChIDARAGCJCZFGREXCICADGhbhPCAOGhbBCACECXCACJCALADECAWDhBAiAHChDcEjUhKVARFFDEAEBICFMNASh",
     "FCAGADhKCqMCDDGCACDDhICDDhACDDGCACDDOChYCDDiChGPRiVDFEzLDQCZGiKEKIROSPRPMCCQhThEAFAiEiYIhICA",
     "GiFLehSdDEMhLFZhXWKhUiTAiehOSHhXdOBLhLbhDhKCLhDDKGhKDChKDCFCBEAGlfiBoVDFDhFDFDHCACACACeDhUCG",
     "CAECCGEDDFFMGCCGjVAOARMjGAFADJCADFHACACACPDDGEFAShIizYnEHDEBNhFCAGADhXIARWKGCGCGCGCGCGCGCGxH",
     "CaIIEDEFiVHCCiZCDGhKCidSfhRPwBmtfiB10MiEhNDoMEPLBVhOReDiPhIIDjGDiRVQCCCDCWehTPhRhfFEACBMbLWa",
     "cIhOdARECJLEChIYCCHVWEAEhRCAEBDEDACAZCDKICNFDFDFKGCGChKCNHjSeq9DNWFhQooFrNDjJhHGNEGACJCMCECA",
     "CBCBCjLhCkKHmZThfDhVhJJjYACAEACACACACjdhFZHZMhXDeEFDFDFDChELCZCSCBCODNhDjaiGhUoMcEhQhQfOdGhF",
     "LdDhDFHCEhLkdThDFhDFhHJhTNKCOCGCBCKCOCGCBEhTNpWKVLHZFChJCIiGFDAChLCBEADWLWKeiCSCBLVLZHZhHhXH",
     "BiBAQDCCCchLcEchEHCbchVLVLSORjPiIhYhSOhSOhDhHbKWnbhJHBRFhZcLAJVhLRhPUcWNhUhaBDAOhMhBYbhDeADA",
     "JhCEANhPPDWACAhERCYUBiAGCACDCOCJIhOhHHDBDVCGCBCEEATANEfJCADAChFCAaACAhNhUTDVCfhPVBCAlZhOhKDh",
     "FhPVAhchKOAiIahGGlahLjVhfhAHDADHCBCXQACAifHDhGRACAdALhHIAWAMhNUATiImIhAhAIChESAhSdjRGCBChFWA",
     "aFCBCfPAYhLoFSQACMChBjdAiQ8ZjHjOSmDiyNjAQhhPSFaj8aGyGm1adh3DxYIeSiOSdThPRDhAUGStRhMmUhfhBYDY",
     "hNiKGAiDMiBBCAPEKnmVhKfjCjSoveDCGCBCpCQAeCDAPDJsLioFjKGMEIIJl7HiUCiGCBDADBDDCLCACGCiACDDHCGC",
     "bCDCECAEGCqTDYCYCeCYCeCYCeCYCeCYCHh5VeHFoGhdkThMLGRAqCdThLvFbnFdDAmQeCCCBCGDEKBnBGCDCBCOCmEh",
     "ciDIAhlVDCaCBCADACJCDCACAHAFACACACCCBCADACACACACACBCADDCGCDCDCACJCQGCCECQkqFhp2fhBkodDl0NDnp",
     "QQzNitDwdhvDk6KGopJ"])]

/-- The code points that have a binary property. -/
def property? (name : String) : Option CharSet :=
  (propertyTable.find? (fun row => row.1.contains name)).map (fun row => CharSet.unpack row.2)

end ThreatMarker.Unicode
