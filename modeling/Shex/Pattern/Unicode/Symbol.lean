/-!
# Symbols

The code points of the general categories of symbols. A run `(lo, hi, step)` stands for the code
points `lo`, `lo + step`, and so on up to `hi`.
-/

namespace Shex.Pattern.Unicode

/-- Mathematical symbols (`Sm`). -/
def mathSymbol : List (Nat × Nat × Nat) := [
    (0x2B, 0x2B, 1), (0x3C, 0x3E, 1), (0x7C, 0x7E, 2), (0xAC, 0xAC, 1), (0xB1, 0xB1, 1),
    (0xD7, 0xD7, 1), (0xF7, 0xF7, 1), (0x3F6, 0x3F6, 1), (0x606, 0x608, 1), (0x2044, 0x2044, 1),
    (0x2052, 0x2052, 1), (0x207A, 0x207C, 1), (0x208A, 0x208C, 1), (0x2118, 0x2118, 1),
    (0x2140, 0x2144, 1), (0x214B, 0x214B, 1), (0x2190, 0x2194, 1), (0x219A, 0x219B, 1),
    (0x21A0, 0x21A0, 1), (0x21A3, 0x21A3, 1), (0x21A6, 0x21A6, 1), (0x21AE, 0x21AE, 1),
    (0x21CE, 0x21CF, 1), (0x21D2, 0x21D4, 2), (0x21F4, 0x22FF, 1), (0x2320, 0x2321, 1),
    (0x237C, 0x237C, 1), (0x239B, 0x23B3, 1), (0x23DC, 0x23E1, 1), (0x25B7, 0x25B7, 1),
    (0x25C1, 0x25C1, 1), (0x25F8, 0x25FF, 1), (0x266F, 0x266F, 1), (0x27C0, 0x27C4, 1),
    (0x27C7, 0x27E5, 1), (0x27F0, 0x27FF, 1), (0x2900, 0x2982, 1), (0x2999, 0x29D7, 1),
    (0x29DC, 0x29FB, 1), (0x29FE, 0x2AFF, 1), (0x2B30, 0x2B44, 1), (0x2B47, 0x2B4C, 1),
    (0xFB29, 0xFB29, 1), (0xFE62, 0xFE62, 1), (0xFE64, 0xFE66, 1), (0xFF0B, 0xFF0B, 1),
    (0xFF1C, 0xFF1E, 1), (0xFF5C, 0xFF5E, 2), (0xFFE2, 0xFFE2, 1), (0xFFE9, 0xFFEC, 1),
    (0x10D8E, 0x10D8F, 1), (0x1D6C1, 0x1D6C1, 1), (0x1D6DB, 0x1D6DB, 1), (0x1D6FB, 0x1D6FB, 1),
    (0x1D715, 0x1D715, 1), (0x1D735, 0x1D735, 1), (0x1D74F, 0x1D74F, 1), (0x1D76F, 0x1D76F, 1),
    (0x1D789, 0x1D789, 1), (0x1D7A9, 0x1D7A9, 1), (0x1D7C3, 0x1D7C3, 1), (0x1EEF0, 0x1EEF1, 1)]

/-- Signs of currencies (`Sc`). -/
def currencySymbol : List (Nat × Nat × Nat) := [
    (0x24, 0x24, 1), (0xA2, 0xA5, 1), (0x58F, 0x58F, 1), (0x60B, 0x60B, 1), (0x7FE, 0x7FF, 1),
    (0x9F2, 0x9F3, 1), (0x9FB, 0x9FB, 1), (0xAF1, 0xAF1, 1), (0xBF9, 0xBF9, 1), (0xE3F, 0xE3F, 1),
    (0x17DB, 0x17DB, 1), (0x20A0, 0x20C0, 1), (0xA838, 0xA838, 1), (0xFDFC, 0xFDFC, 1),
    (0xFE69, 0xFE69, 1), (0xFF04, 0xFF04, 1), (0xFFE0, 0xFFE1, 1), (0xFFE5, 0xFFE6, 1),
    (0x11FDD, 0x11FE0, 1), (0x1E2FF, 0x1E2FF, 1), (0x1ECB0, 0x1ECB0, 1)]

/-- Symbols that modify letters (`Sk`). -/
def modifierSymbol : List (Nat × Nat × Nat) := [
    (0x5E, 0x60, 2), (0xA8, 0xA8, 1), (0xAF, 0xAF, 1), (0xB4, 0xB4, 1), (0xB8, 0xB8, 1),
    (0x2C2, 0x2C5, 1), (0x2D2, 0x2DF, 1), (0x2E5, 0x2EB, 1), (0x2ED, 0x2ED, 1), (0x2EF, 0x2FF, 1),
    (0x375, 0x375, 1), (0x384, 0x385, 1), (0x888, 0x888, 1), (0x1FBD, 0x1FBD, 1),
    (0x1FBF, 0x1FC1, 1), (0x1FCD, 0x1FCF, 1), (0x1FDD, 0x1FDF, 1), (0x1FED, 0x1FEF, 1),
    (0x1FFD, 0x1FFE, 1), (0x309B, 0x309C, 1), (0xA700, 0xA716, 1), (0xA720, 0xA721, 1),
    (0xA789, 0xA78A, 1), (0xAB5B, 0xAB5B, 1), (0xAB6A, 0xAB6B, 1), (0xFBB2, 0xFBC2, 1),
    (0xFF3E, 0xFF40, 2), (0xFFE3, 0xFFE3, 1), (0x1F3FB, 0x1F3FF, 1)]

/-- All other symbols (`So`). -/
def otherSymbol : List (Nat × Nat × Nat) := [
    (0xA6, 0xA6, 1), (0xA9, 0xA9, 1), (0xAE, 0xB0, 2), (0x482, 0x482, 1), (0x58D, 0x58E, 1),
    (0x60E, 0x60F, 1), (0x6DE, 0x6DE, 1), (0x6E9, 0x6E9, 1), (0x6FD, 0x6FE, 1), (0x7F6, 0x7F6, 1),
    (0x9FA, 0x9FA, 1), (0xB70, 0xB70, 1), (0xBF3, 0xBF8, 1), (0xBFA, 0xBFA, 1), (0xC7F, 0xC7F, 1),
    (0xD4F, 0xD4F, 1), (0xD79, 0xD79, 1), (0xF01, 0xF03, 1), (0xF13, 0xF13, 1), (0xF15, 0xF17, 1),
    (0xF1A, 0xF1F, 1), (0xF34, 0xF38, 2), (0xFBE, 0xFC5, 1), (0xFC7, 0xFCC, 1), (0xFCE, 0xFCF, 1),
    (0xFD5, 0xFD8, 1), (0x109E, 0x109F, 1), (0x1390, 0x1399, 1), (0x166D, 0x166D, 1),
    (0x1940, 0x1940, 1), (0x19DE, 0x19FF, 1), (0x1B61, 0x1B6A, 1), (0x1B74, 0x1B7C, 1),
    (0x2100, 0x2101, 1), (0x2103, 0x2106, 1), (0x2108, 0x2109, 1), (0x2114, 0x2114, 1),
    (0x2116, 0x2117, 1), (0x211E, 0x2123, 1), (0x2125, 0x2129, 2), (0x212E, 0x212E, 1),
    (0x213A, 0x213B, 1), (0x214A, 0x214A, 1), (0x214C, 0x214D, 1), (0x214F, 0x214F, 1),
    (0x218A, 0x218B, 1), (0x2195, 0x2199, 1), (0x219C, 0x219F, 1), (0x21A1, 0x21A2, 1),
    (0x21A4, 0x21A5, 1), (0x21A7, 0x21AD, 1), (0x21AF, 0x21CD, 1), (0x21D0, 0x21D1, 1),
    (0x21D3, 0x21D3, 1), (0x21D5, 0x21F3, 1), (0x2300, 0x2307, 1), (0x230C, 0x231F, 1),
    (0x2322, 0x2328, 1), (0x232B, 0x237B, 1), (0x237D, 0x239A, 1), (0x23B4, 0x23DB, 1),
    (0x23E2, 0x2429, 1), (0x2440, 0x244A, 1), (0x249C, 0x24E9, 1), (0x2500, 0x25B6, 1),
    (0x25B8, 0x25C0, 1), (0x25C2, 0x25F7, 1), (0x2600, 0x266E, 1), (0x2670, 0x2767, 1),
    (0x2794, 0x27BF, 1), (0x2800, 0x28FF, 1), (0x2B00, 0x2B2F, 1), (0x2B45, 0x2B46, 1),
    (0x2B4D, 0x2B73, 1), (0x2B76, 0x2B95, 1), (0x2B97, 0x2BFF, 1), (0x2CE5, 0x2CEA, 1),
    (0x2E50, 0x2E51, 1), (0x2E80, 0x2E99, 1), (0x2E9B, 0x2EF3, 1), (0x2F00, 0x2FD5, 1),
    (0x2FF0, 0x2FFF, 1), (0x3004, 0x3004, 1), (0x3012, 0x3013, 1), (0x3020, 0x3020, 1),
    (0x3036, 0x3037, 1), (0x303E, 0x303F, 1), (0x3190, 0x3191, 1), (0x3196, 0x319F, 1),
    (0x31C0, 0x31E5, 1), (0x31EF, 0x31EF, 1), (0x3200, 0x321E, 1), (0x322A, 0x3247, 1),
    (0x3250, 0x3250, 1), (0x3260, 0x327F, 1), (0x328A, 0x32B0, 1), (0x32C0, 0x33FF, 1),
    (0x4DC0, 0x4DFF, 1), (0xA490, 0xA4C6, 1), (0xA828, 0xA82B, 1), (0xA836, 0xA837, 1),
    (0xA839, 0xA839, 1), (0xAA77, 0xAA79, 1), (0xFD40, 0xFD4F, 1), (0xFDCF, 0xFDCF, 1),
    (0xFDFD, 0xFDFF, 1), (0xFFE4, 0xFFE4, 1), (0xFFE8, 0xFFE8, 1), (0xFFED, 0xFFEE, 1),
    (0xFFFC, 0xFFFD, 1), (0x10137, 0x1013F, 1), (0x10179, 0x10189, 1), (0x1018C, 0x1018E, 1),
    (0x10190, 0x1019C, 1), (0x101A0, 0x101A0, 1), (0x101D0, 0x101FC, 1), (0x10877, 0x10878, 1),
    (0x10AC8, 0x10AC8, 1), (0x1173F, 0x1173F, 1), (0x11FD5, 0x11FDC, 1), (0x11FE1, 0x11FF1, 1),
    (0x16B3C, 0x16B3F, 1), (0x16B45, 0x16B45, 1), (0x1BC9C, 0x1BC9C, 1), (0x1CC00, 0x1CCEF, 1),
    (0x1CD00, 0x1CEB3, 1), (0x1CF50, 0x1CFC3, 1), (0x1D000, 0x1D0F5, 1), (0x1D100, 0x1D126, 1),
    (0x1D129, 0x1D164, 1), (0x1D16A, 0x1D16C, 1), (0x1D183, 0x1D184, 1), (0x1D18C, 0x1D1A9, 1),
    (0x1D1AE, 0x1D1EA, 1), (0x1D200, 0x1D241, 1), (0x1D245, 0x1D245, 1), (0x1D300, 0x1D356, 1),
    (0x1D800, 0x1D9FF, 1), (0x1DA37, 0x1DA3A, 1), (0x1DA6D, 0x1DA74, 1), (0x1DA76, 0x1DA83, 1),
    (0x1DA85, 0x1DA86, 1), (0x1E14F, 0x1E14F, 1), (0x1ECAC, 0x1ECAC, 1), (0x1ED2E, 0x1ED2E, 1),
    (0x1F000, 0x1F02B, 1), (0x1F030, 0x1F093, 1), (0x1F0A0, 0x1F0AE, 1), (0x1F0B1, 0x1F0BF, 1),
    (0x1F0C1, 0x1F0CF, 1), (0x1F0D1, 0x1F0F5, 1), (0x1F10D, 0x1F1AD, 1), (0x1F1E6, 0x1F202, 1),
    (0x1F210, 0x1F23B, 1), (0x1F240, 0x1F248, 1), (0x1F250, 0x1F251, 1), (0x1F260, 0x1F265, 1),
    (0x1F300, 0x1F3FA, 1), (0x1F400, 0x1F6D7, 1), (0x1F6DC, 0x1F6EC, 1), (0x1F6F0, 0x1F6FC, 1),
    (0x1F700, 0x1F776, 1), (0x1F77B, 0x1F7D9, 1), (0x1F7E0, 0x1F7EB, 1), (0x1F7F0, 0x1F7F0, 1),
    (0x1F800, 0x1F80B, 1), (0x1F810, 0x1F847, 1), (0x1F850, 0x1F859, 1), (0x1F860, 0x1F887, 1),
    (0x1F890, 0x1F8AD, 1), (0x1F8B0, 0x1F8BB, 1), (0x1F8C0, 0x1F8C1, 1), (0x1F900, 0x1FA53, 1),
    (0x1FA60, 0x1FA6D, 1), (0x1FA70, 0x1FA7C, 1), (0x1FA80, 0x1FA89, 1), (0x1FA8F, 0x1FAC6, 1),
    (0x1FACE, 0x1FADC, 1), (0x1FADF, 0x1FAE9, 1), (0x1FAF0, 0x1FAF8, 1), (0x1FB00, 0x1FB92, 1),
    (0x1FB94, 0x1FBEF, 1)]

end Shex.Pattern.Unicode
