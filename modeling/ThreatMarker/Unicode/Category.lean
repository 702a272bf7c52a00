import ThreatMarker.Unicode.Packed
/-
# General categories

Every code point has one of the thirty general categories of the character database.  Eight further
names stand for groups of categories.  Names are given in their loose form: lower case, without
spaces, hyphens and underscores.
-/

namespace ThreatMarker.Unicode

set_option autoImplicit false

/-- The names of each general category and its code points, packed. -/
def categoryTable : List (List String × List String) := [
  (["cc", "control", "cntrl"],
    ["AfjAhA"]),
  (["cf", "format"],
    ["lNAhqTFXAmBAhSAsBBiRAj5MAh-dEbEhSECJh30QAnaCkmCAQAo7DPhijBDlmQH4r0HAfif"]),
  (["cn", "unassigned"],
    ["7YBHDIACAVAsOAhHBhTBEAhYHcDHKoPAhdBjGNhcBhSBQAdBCAMEhDEnOAJBDBXAIACCFBKBDBFHCDDAGBaBEAHDDBXA",
     "IADADADBCAGDDBECCGFACGSJEAKAEAXAIADAGBLAEAEBCOFBNGIAEAJBDBXAIADAGBKBDBEGEDDAGBTJDAHCEAFCDACA",
     "DCDCECNDGCEAFBCFCNWEOAEAYARBKAEAFGDAEADBFBLGXAEAYALAGBKAEAFGDEEAFBLAELOAEAhUAEAHDRBbAEATCZAK",
     "ACBICCDHACAJFLBELhbDehEDACAGAZACAYBGACAIALBFfiJAhFDhIAhFAQAOhEmHACECBraAFBIACAFBhKAFBhCAFBIA",
     "CAFBQAhaAFBiEBhBCbFiXBHB0eCiaGXIZIVLOAEADLifBLFLFbFiaGhMEiHJhAANDNDCChLBGKhNDbFMChfBiCAeBMFL",
     "FPBhPBNTiOAlHHhdCQChfEhMBMHhMEwXBHBhHBHBJACACACAhABhWAQAPBHAUBEAKAjGANBcAOChDNhCOkND0bVMUh4V",
     "BrfEhOACECBhZGDNZIIAIAIAIAIAIAIAIAjfhBbAiaLmXZiRAiXBjIEhMAifAiXIhRA8zOChYIqdTlZHmeThdCLFhZHi",
     "HHNFjVKfCiPAMDhCAhYIPBLBjIXdJHBHBHIIAIAhdDjfBLFq9FLYDhSDozPBjLhFILGEbAGACADADA0LfhLFhUAUAFDG",
     "AkIBCAlfCHBHBHBECIAIJGBNAbAUADAQBPhBjcEEDhOCiZAOCChOhPkBeChSOdDhFIfEhMEfAhGDPhJkfBLFhFDhFDhJ",
     "HhVKNAQAIADAMAQAIADChVLpYIXJJXHAhLAKiEHBCAhNADCCBYAiJHKhPUADEhCCcEchFhZDVBhTADEJAEAeBEDLGKGi",
     "BfhIDNIhXCeBcEbGFLIiPiKhWhUMhUGhPHLFhHCeHDmPhAAhLAEBDPHHKhAhPHhLVbhFdTYIiPDhFIiFJCBaGLFhWATH",
     "hIIjBAVKTAhQhdIACAFAQAMFhcELFFAJBDBXAIADAGALBDBEBCFCEIBICGKLACBCAhHALACBCAFALADHDcidAGdiJHLl",
     "FhXBhHhBiGKLFOShbFLFVbcBQDYlYhdjDiULJBCBJADAfADBNILiFJBhPBMaiJHiUMiKGLiVJiXhDNLFKAhOAPJeChBB",
     "XAPiIIADAhNCCADAKHLFHADAhGADAHGLFhNDLnVaGSAhKCeiUCOhTM8cjFjQAGKmFiyLjEMhiXJj8cEyIm1Yhbh2FxaG",
     "hAALDiSALFfBHJiHJLAIAWEUtPhbmFicEaBahLiMDhaGShfGKIInmXhIhBjAjUovcFAIADApEOCcEBCNFHsNioDjMEOC",
     "KGLBJj6bneCtVFYOSOhPBYIjVhbnXJhIBmDUiHjZVLVLiYIakGiWAiIADBCBDBFANACAIAiCAFBJAIAdAFAGACCIAqVB",
     "pFB1fOGAQhiPhAFHmUIASBIADAGEhfhACjPhOCPBLDDpfhAQhbECuPhLmVhMDClfhAAXHDmfIAFADAQAmGBRhIiNDLDD",
     "4QiFiLhemBFAcADACBCALAFACACFCDCACACAEADACBCACACACACADACBFAIAFAFACALASEEAGAShTDoNhNDjFLQBQAQA",
     "hGJlPhXeMhNDKGDNHkZ+aCSCOCmbFNDCONDhZHLFhJHfBNDDNKhGqZHPBOCMChaACDRBNDLGkUAjIhgEhp3BfkofBl0P",
     "BnpSOzPitBwfhvBk6MEopL1y8GCdjBjfnRh-wPh--fBh--fB"]),
  (["co", "privateuse"],
    ["h4gAmnf8h4Bh--dDh--d"]),
  (["cs", "surrogate"],
    ["h2gAh-f"]),
  (["ll", "lowercaseletter"],
    ["jBZhbAhKXCHCACACACACACACACACACACACACACACACACACACACACACACACACACACACBCACACACACACACACBCACACACAC",
     "ACACACACACACACACACACACACACACACACACACADACACCDACADAEBFADAECDADACACADACBCADAEACADBDCHADADACACAC",
     "ACACACACACBCACACACACACACACACBDACAEACACACACACACACACACACACACACACACACACACACACACACACACACACACACAC",
     "GDADBCAFACACACACiEDZmCACAEAECTAchCCBECCACACACACACACACACACACACECADADBhUhPCACACACACACACACACACA",
     "CACACACACACACAKACACACACACACACACACACACACACACACACACACACACACACACACACACADACACACACACACBCACACACACA",
     "CACACACACACACACACACACACACACACACACACACACACACACACACACACACACACACACACACACACACACACACACACACAhRhIi6",
     "IhKDC3ZFikDICAjWhLiAMChBjHACACACACACACACACACACACACACACACACACACACACACACACACACACACACACACACACAC",
     "ACACACACACACACACACACACACACACACACACACACACACACACACACACACACACACACACACACACACACACACACACICACACACAC",
     "ACACACACACACACACACACACACACACACACACACACACACACACACACACACACACACACACACACACACACACACACACACACACIJFL",
     "HJHJFLHJHJNDHJHJHJECBHAECCBJDDBJHLCCBoTAEBEAcAFAFADBJDFAhWAi1MhPCAEBCACACAFACBCFGACACACACACA",
     "CACACACACACACACACACACACACACACACACACACACACACACACACACACACACACACACACACACACACACACACACACACACBIACA",
     "FANhFCAGA+oUACACACACACACACACACACACACACACACACACACACACACACAUACACACACACACACACACACACACACAkIACACA",
     "CACACACCCACACACACACACACACACACACACACACACACACACACACACACACACACACACACACACACHCACADACACACACAFACADA",
     "CCCACACACACACACACACACAGAGACACACACACACACAFACADACACACACACACACAbAEA5WhKGIIiPz6BGNEhhKZhmOhHkJhD",
     "kcKCOCGCBh4EhSjeVi5bf1sBfhcY5qHZbGCRbZbDCACGCKbZbZbZbZbZbZbZbZbbdYCFbYCFbYCFbYCFbYCFCAh5VJCT",
     "HFivYhB"]),
  (["lm", "modifierletter"],
    ["1QRFLPEIACAkGAGAufAnHAlFBoOBFAhAAKAEAlBAlIAhmVAkAAxWAh2bAjMAzEAuRFlPheOAhDhE1SAOARMi-ABnSAmA",
     "AuWAhMEGAjCBieC74XAhnDFoPAjTAdBjaIiRAYAjJDEBuWAXAkKAjNAWBjIDKA1gHAhOBh-BFChJCIhsUAhBAqWAj4UA",
     "zrHDvdChJBxHMiBBCAPBv-dDCGCBshShdmKG9OAwUAyMA"]),
  (["lo", "otherletter"],
    ["lKAQAoBAFDmRB5baFDhOfCJhEBCjCCAZBLCDARACdeiYMAZhAWVhLYIKGXCGRhIhchVEATAIJROFHDBDVCGCAEDEARAO",
     "BCCPBLAJFFBDVCGCBCBCBhADCAUCRICCCVCGCBCEEATAQBYAMHDBDVCGCBCEEAfBCCQASACFECCDEBCACBEBECELXAhV",
     "HCCCWCPEAbCCBDBfAFHCCCWCJCEEAfCCBQBSICCChIDARAGCJCZFGREXCICADGhbhPCBNFhcBCACECXCACJCBKADEYDh",
     "BAiAHChDcEjUhKVARFFDEAEBICFMNAjSqICDDGCACDDhICDDhACDDGCACDDOChYCDDiChGPjSzLDQCZGiKHHIROSPRPM",
     "CCQhThJAiEhCChUIEDhBCAGiFLehSdDEMhLFZhXWKhUlRhOSHhXdOBLhLbhDhKCLdjSDCFCBEAhhbDi-YhXZWKGCGCGC",
     "GCGCGCGCGxIAhWAFiVJACiZFAGhKCidSfhRPwBmtfiB0wUChjWiEhHJoLFPLBiDAhSiFlKAjIAEGCCCDCWehTPhRhfFE",
     "ACBMbLWacIhOhOEDILEChIYCCHVPCFEAEhRCAEBDEDACAZBEKIAPFDFDFKGCGkShCeq9DNWFhQooFrNDjJiEACJCMCEC",
     "ACBCBCjLhCrKThfDhVhJLjVECkGjKJChMDeEFDFDFDChELCZCSCBCODNhDjasGcEhQhQfOTCHHhFLdDhDFHkBiNjDhHJ",
     "hTidhTNpWKVLHkZFDAChLCBEADWLWKeiCSCBLVLZHZhHhXHBiBAQDCCCchLcEchEHCbchVLVLSORjPiIlYhDhHDCApRh",
     "JHBRCCBhZcLAJVhLRhPUcWNhUhaBDAOhMhBYbhDeADAJhCEANhPPDWACAhERCYUBiAGCACDCOCJIhOhHHDBDVCGCBCEE",
     "ATANEfJCADAChFCAaACAhNhUTDVCfhPVBCAlZhOhKDhFhPVAhchKOAiIahGGlahLmUHDADHCBCXQACAifHDhGRACAdAL",
     "hHIAWAMhNUATiImIhAhAIChESAhSdjRGCBChFWAaFCBCfPAYhICBoFSQACMChBjdAiQ8ZnHmDiyNjAQhhPSFaj8aGyGm",
     "1adh3DxYIeSiOSdThPhUUGStUhHsWiKGAlQnmVhKfjCjSowOpCQAeCDAPDJsLioFjKGMEIIJozRAvWhMhCAqCdThLvFa",
     "nGdDAmQeCCCBCGDEKAnCGCDCBCOCmEhpcDCaCBCADACJCDCACAHAFACACACCCBCADACACACACACBCADDCGCDCDCACJCQ",
     "GCCECQkqFhp2fhBkodDl0NDnpQQzNitDwdhvDk6KGopJ"]),
  (["lt", "titlecaseletter"],
    ["uFADADAhHAnsWHJHJHNAQAhQA"]),
  (["lu", "uppercaseletter"],
    ["iBZjGWCGhCACACACACACACACACACACACACACACACACACACACACACACACACACACACADACACACACACACACADACACACACAC",
     "ACACACACACACACACACACACACACACACACACACBCACAEBCACBCCDDCBCCEBCBCACACBCADACBCCCACBEAIADADADACACAC",
     "ACACACACADACACACACACACACACADADACCCACACACACACACACACACACACACACACACACACACACACACACACACACACACACAI",
     "BCBDACDCACACACApCACAEAJAHACCCACBCQCIhEADCEACACACACACACACACACACACAGADACBDhShRACACACACACACACAC",
     "ACACACACACACACACAKACACACACACACACACACACACACACACACACACACACACACACACACACACACBCACACACACACADACACAC",
     "ACACACACACACACACACACACACACACACACACACACACACACACACACACACACACACACACACACACACACACACACACACACACADhF",
     "i6KhFCAGA2TiVikUAHhKDCqBACACACACACACACACACACACACACACACACACACACACACACACACACACACACACACACACACAC",
     "ACACACACACACACACACACACACACACACACACACACACACACACACACACACACACACACACACACACACACACACACAKACACACACAC",
     "ACACACACACACACACACACACACACACACACACACACACACACACACACACACACACACACACACACACACACACACACACACACAKHJFL",
     "HJHJFMACACACAJHiJDNDNDNEMDoHAFAECDCDAEEHACACACDDDLBGAheAizdhPhRACCDACACACDCADAJCCACACACACACA",
     "CACACACACACACACACACACACACACACACACACACACACACACACACACACACACACACACACACACACACACACACACACACAJACAFA",
     "+qOACACACACACACACACACACACACACACACACACACACACACACAUACACACACACACACACACACACACACAkIACACACACACACAE",
     "ACACACACACACACACACACACACACACACACACACACACACACACACACACACACACACALACACBCACACACAFACADACAEACACACAC",
     "ACACACACACACECECACACACACACACACDCACBCACACACACACACACAZA15MZhmGhHkJhDkdKCOCGCBh3LhSkeVi5bf1sBfi",
     "BY5qIZbZbZbACBDADBDDCHbZbBCDDHCGcBCDCECAEGcZbZbZbZbZbZfYhCYhCYhCYhCYhCAkpWhB"]),
  (["mc", "spacingmark"],
    ["ioDAhYADCJDCBhTBhbCHBDBLAhMAhbCiDAhbCJACBhWBhbACAHBDBLAjHBCBECCCLAhKCheDheBhbACEDBCBKBdAPBhb",
     "CGCCCLAhLBiMCHHTBqLBiAAlMBFAHADBaBLCDGWBDFDALChzZAfAkCAIHCBqbDDCFBCFnBBhbACAKACBJFkSAhRAGACE",
     "CBheAfAFBDAhdADCCAEBhRHJBlMAWAk5XB9-UBDAiZBhTPkPBhQAhRBFBDCjPBDBZAhOACAjOADBGAnOBCBCBCA5gUAC",
     "AkAAhOCFBjUAZBhcAhRCKBOAieCEBCAlLChABhbBCDDBDCKALBiVCIADACDCBCAjGCJBEAjLCHACDDAnOCHDDAjSCJBC",
     "AjOACBHAjIACBFAoGCKAnYFCBFADACAkPCJDFAiVAeBhfAmKAEACAmIAPAjLAIADAmWEFBCAqfBNAhRBJBCAwvJCjxFh",
     "WjJB4rUBHF"]),
  (["me", "enclosingmark"],
    ["hkIBlxVAhwfDCChhsMC"]),
  (["mn", "nonspacingmark"],
    ["4AjPoUEoKhMCACBCBCAiJKhRURAjGGDFDBCDhEAfaicKhbIKAZDCICCCEhMChcIhLXCfhYACAFHFAEGLBeAhbAFDJAVB",
     "bADBhaAFBFBDCEAfBEAMBhaAFECBFAVBXFCAhbADACDJAIBMBfAheANAhTAEAhYACCGCCDIBMBeAhbADAHAGBVBdBhaB",
     "FDJAVBeAiJAICCAibADGNHjDADIMGiKBcACACAhYNCECBGKChDKAjHDCFCBDBaBFCRDOADBHAQA2AC9TCeBfBfBiBBCG",
     "JADKKAhOCCAjWBhDAjXCFBKAHCmcBDAhbACGCACADHHJDAhRNCeDLVDhRACECAGAhJINBhBDDBCChZACBEACChbHDBkZ",
     "CCMCGFAHAEBmHhf2RMFAELi-fCkOAjBfxLDjMB9uVAFJhBBiRBoRAEAFAaBGAkYBbROAhHHaKhPChRADDDBhIAiEFDBD",
     "BNAJAhQAhUACCDBGBCAhLBJAnPADAFAz5RA3CPRP+OAnDAkWEh0HCCBGDhJCFAlGBxeDiCEpeBiOFiHKhSDjcAhXOhKA",
     "DBLChSDDBIAheChFECHhfANBhVILDDAjACDACBHADAkeAEHWBhaBEAhGGEEiHFOACACAPBiWHDCCAYAiVFCAFBCBnPDH",
     "BCBcBiWHDACBjLACADFCAjGACADDCEoEICBoBBCAFAkRDDBFAhBJhJFDDJAKFDChPMCBmHACCCAmKGCFCAiTVDGCBCBj",
     "bFEACBCGCAiJBEACAqcBMBhVEGACAYAlnGAHOrmJLECiuBEhcGhgZAiADiSAzlZBkzChNDWxBCSHDGfDkVCh9chWFhRJ",
     "APAXECOhqRGCQDGCBCEjFAlBGrYAheDvdDnfBnUADAIBGAubGjOG4l9WnP"]),
  (["nd", "decimalnumber", "digit"],
    ["hQJhxHJkHJmHJsdJjXJjXJjXJjXJjXJjXJjXJjXJjXJjBJjXJiHJoXJiHJh6HJhHJpNJkBJlHJHJlXJiXJkHJHJhiuHJ",
     "1HJhHJmHJXJiXJsXJ04XJhsHJikHJHJ4dJkBJhdJkRJoXJqXJjXJrXJjHJHTiNJtHJjHJ0XJiXJnXJiHJhXJrHJwuXJi",
     "pHJiXJkHJwXJ37XJi2VhRiqBJtHJvXJnYJ6WJk0XJ"]),
  (["nl", "letternumber"],
    ["l3OCizQhCDDjzfAaIPC91MJ2yRhUuNAJAkHEohLjOy8GC"]),
  (["no", "othernumber"],
    ["lSBGADCipWFrZFjZCkGGmaGSItSJhhWThjUJvBAh0WAEFHJmHPhKA2XhbiPVzXdhrKAhkVDkLJfHCOhBJhIO9rRF2mSh",
     "MiCDSBqWahFDhpVHaGhIIiMEXFlBBDPDhNiBIhVBfCiMEjJHZHhKGqLFrBekfJhLDjRGkHTrcThqGBtPI7IS6UUy8HG4",
     "fW5hKTNTjNYlqPI9ChaCCCDiNhMCO+DM"]),
  (["pc", "connectorpunctuation"],
    ["ifAn-ABUAh3ufBZCnQA"]),
  (["pd", "dashpunctuation"],
    ["hNAhqdAhUAjyCAhgGAigKFjwCADAhABFAdAtfAUAjQAhzsRBhGALAlKAjzBApfA"]),
  (["pe", "closepunctuation"],
    ["hJAhUAhAAj1eACAh6fAitKAhYAQAzbACAfAhhfACACACACACACAiRAhBACACACACAsVACACACACACACACACACACAiBAC",
     "AhCAhhGACACACAhNACACACAtNACACACACAEACACACADBhzofAmaAeACACACACACACACAEASACACAlLAhUAhAADADA"]),
  (["pf", "finalpunctuation"],
    ["lbAn6eAEAdAjuJACAFADAQAEA"]),
  (["pi", "initialpunctuation"],
    ["lLAn7NADBDAaAjuJACAFADAQAEA"]),
  (["po", "otherpunctuation"],
    ["hBCCCDACACBLBEBcAiFAGAPBIA1fAJAuTFhKAhXADADAhNBVBCBOACCiLDjHAhMNnKChXOhAAoGBLAkNAjZAjaAsHANA",
     "rQAibALBlJOCAjRAiLEFBjQFlMAzFI4GAjdCiIBkeCCChGFCDpaBmZBkBGCFlBBLGdCjdDhcEhfBiBHMA6DBJHJIDDDC",
     "EKCACJjkbDCBjRAkQBFCDADICBCADBLECJDDCACMDCtNChaAleA9gDBoOCjEALAjUFrdDiXBhJCCAhSBhQAjCMRBjdDj",
     "fBRBnaA0xFGDAXAVBDDECCDICHACBkWCCCDACACBLBEBcAhFADBsbC0dAhRAsfA3IAmIAhAAoRIhHAjRGiDGiaD5UAkF",
     "EhNDleGjOBCDjfDhRBiQDFAOACCiZFjMApLBCBjTELBCAjJAnbWjKCdMiNAkDCndAoJCkcAidHiUCCEieJmYAjAEhLB0",
     "GBiLMlQAhjREi7dBuzcBkGAiCEJAxJCpIDqIAzldAnvIEi7UA6fB"]),
  (["ps", "openpunctuation"],
    ["hIAhTAhAAj1fACAh6fAirfAEAhHAhYAQAzbACAfAhhfACACACACACACAiRAhBACACACACAsVACACACACACACACACACAC",
     "AiBACAhCAhhGACACACAaATACACACAtNACACACACAEACACACADAhzpCAmYAeACACACACACACACAEASACACAlLAhTAhAAE",
     "ADA"]),
  (["sc", "currencysymbol"],
    ["hEAjeDhnKAjcAvTBvTBIAnWAoIAyGAiscAimFhBhh7XA1uEAjNAkbAmcBEBn-XDhw4fAitRA"]),
  (["sk", "modifiersymbol"],
    ["ieACAiIAHAFAEAwKDNNGGCACQjWAPBhoDAl5VACCMCOCOCOBkkdB9zEWKBjIB+RAPB0iHQ7cACAlDAh9gYE"]),
  (["sm", "mathsymbol"],
    ["hLARCheACAhOAFAhGAhAA3fAwQCmxcAOAhICOCkMAhIEHAiFEGBFADADAIAhABDACAhAoLhBBibAfYhJFuWAKAhXHjQA",
     "qREDeLPoBkCXheFfDoBhRUDFhz+dA5ZACClFARCheACAkEAHDjtCBhwrBAh+RAaAhAAaAhAAaAhAAaAhAAaAl5NBiufI"]),
  (["so", "othersymbol"],
    ["lGADAFACA+SAoLBkABmPALAUBnYAwEArWAkDFCAkFAmQAhKAsICQACCDFVACACAkGHCFCBGDmGB3RJ2UA2TAkehBrCJK",
     "IhsEBCDCBLACBHFCACACAFAMBPACBCAhbBKEDDCBCBCGCeDBCACeoNHFTDGDiQCdahHHiHXKiSiNXlWCIChVJjOCnXhN",
     "hLiBnfwBhPWBHhGDkJnGFrGBhPZCiYNmVbPFAOBNAWBHBqRBFJhBhFKAReMdJAQfLhGQpfmuBhf10RhW7CDLBCAxeC0q",
     "KPrOPiBBhXHhOCvFAEAFBOBpaIhaQDCCMEAhQhMhzbByQAhgJHijHAikWHFQy6LDGA0qXAj7EnPLCEtTHWQPjBjThdnV",
     "LhGDhbGCXBIdFhcWiBEAlbiWhlKvfhYDhTHCNCBh2JAi6dAkCA2ShLFjDNODOCOChEYlAhZcOhLFIIBPFkbnaG2YEQEM",
     "EmZHLFAQLFhXJJHhHJdDLFBhfqXJNDMEKEhYCAFPDLFJIkSCibLA"]),
  (["zl", "lineseparator"],
    ["ohIA"]),
  (["zp", "paragraphseparator"],
    ["ohJA"]),
  (["zs", "spaceseparator"],
    ["hAAkAAlvAAisAKhFAhQAj9BA"])]

/-- The names of each group of categories and the categories in it. -/
def categoryGroups : List (List String × List String) := [
  (["c", "other"], ["cc", "cf", "cs", "co", "cn"]),
  (["l", "letter"], ["lu", "ll", "lt", "lm", "lo"]),
  (["lc", "casedletter"], ["lu", "ll", "lt"]),
  (["m", "mark", "combiningmark"], ["mn", "mc", "me"]),
  (["n", "number"], ["nd", "nl", "no"]),
  (["p", "punctuation", "punct"], ["pc", "pd", "ps", "pe", "pi", "pf", "po"]),
  (["s", "symbol"], ["sm", "sc", "sk", "so"]),
  (["z", "separator"], ["zs", "zl", "zp"])]

/-- The code points of a single category. -/
def leafCategory? (name : String) : Option CharSet :=
  (categoryTable.find? (fun row => row.1.contains name)).map (fun row => CharSet.unpack row.2)

/-- The code points of a category or of a group of categories. -/
def category? (name : String) : Option CharSet :=
  match categoryGroups.find? (fun row => row.1.contains name) with
  | some row =>
      some (row.2.foldl (fun acc leaf => acc.union ((leafCategory? leaf).getD .empty)) .empty)
  | none => leafCategory? name

end ThreatMarker.Unicode
