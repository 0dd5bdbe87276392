/-!
# Segmentation of text

The code points with a value of a break property that no other property gives them. A run `(lo, hi,
step)` stands for the code points `lo`, `lo + step`, and so on up to `hi`.
-/

namespace Shex.Pattern.Unicode

/-- Characters that belong to the one after them. -/
def prepended : List (Nat × Nat × Nat) := [
    (0x600, 0x605, 1), (0x6DD, 0x6DD, 1), (0x70F, 0x70F, 1), (0x890, 0x891, 1), (0x8E2, 0x8E2, 1),
    (0xD4E, 0xD4E, 1), (0x110BD, 0x110BD, 1), (0x110CD, 0x110CD, 1), (0x111C2, 0x111C3, 1),
    (0x113D1, 0x113D1, 1), (0x1193F, 0x11941, 2), (0x11A3A, 0x11A3A, 1), (0x11A84, 0x11A89, 1),
    (0x11D46, 0x11D46, 1), (0x11F02, 0x11F02, 1)]

/-- Spacing marks that stand for themselves. -/
def otherSpacing : List (Nat × Nat × Nat) := [
    (0x102B, 0x102C, 1), (0x1038, 0x1038, 1), (0x1062, 0x1064, 1), (0x1067, 0x106D, 1),
    (0x1083, 0x1083, 1), (0x1087, 0x108C, 1), (0x108F, 0x108F, 1), (0x109A, 0x109C, 1),
    (0x1A61, 0x1A61, 1), (0x1A63, 0x1A64, 1), (0xAA7B, 0xAA7D, 2), (0x11720, 0x11721, 1)]

/-- Conjoining consonants at the start of Hangul syllables. -/
def leadingConsonant : List (Nat × Nat × Nat) := [
    (0x1100, 0x115F, 1), (0xA960, 0xA97C, 1)]

/-- Conjoining vowels. -/
def medialVowel : List (Nat × Nat × Nat) := [
    (0x1160, 0x11A7, 1), (0xD7B0, 0xD7C6, 1), (0x16D63, 0x16D63, 1), (0x16D67, 0x16D6A, 1)]

/-- Conjoining consonants at the end of Hangul syllables. -/
def trailingConsonant : List (Nat × Nat × Nat) := [
    (0x11A8, 0x11FF, 1), (0xD7CB, 0xD7FB, 1)]

/-- Signs that are part of words without being alphabetic. -/
def otherWordLetter : List (Nat × Nat × Nat) := [
    (0x2C2, 0x2C5, 1), (0x2D2, 0x2D7, 1), (0x2DE, 0x2DF, 1), (0x2E5, 0x2EB, 1), (0x2ED, 0x2ED, 1),
    (0x2EF, 0x2FF, 1), (0x55A, 0x55C, 1), (0x55E, 0x55E, 1), (0x58A, 0x58A, 1), (0x5F3, 0x5F3, 1),
    (0x70F, 0x70F, 1), (0xA708, 0xA716, 1), (0xA720, 0xA721, 1), (0xA789, 0xA78A, 1),
    (0xAB5B, 0xAB5B, 1)]

/-- Signs in numbers besides decimal digits. -/
def otherNumeric : List (Nat × Nat × Nat) := [
    (0x600, 0x605, 1), (0x66B, 0x66C, 1), (0x6DD, 0x6DD, 1), (0x890, 0x891, 1), (0x8E2, 0x8E2, 1),
    (0x110BD, 0x110BD, 1), (0x110CD, 0x110CD, 1)]

/-- Signs used with Katakana of any script. -/
def katakanaSign : List (Nat × Nat × Nat) := [
    (0x3031, 0x3035, 1), (0x309B, 0x309C, 1), (0x30A0, 0x30A0, 1), (0x30FC, 0x30FC, 1),
    (0xFF70, 0xFF70, 1)]

/-- Signs within words. -/
def midLetter : List (Nat × Nat × Nat) := [
    (0x3A, 0x3A, 1), (0xB7, 0xB7, 1), (0x387, 0x387, 1), (0x55F, 0x55F, 1), (0x5F4, 0x5F4, 1),
    (0x2027, 0x2027, 1), (0xFE13, 0xFE13, 1), (0xFE55, 0xFE55, 1), (0xFF1A, 0xFF1A, 1)]

/-- Signs within numbers. -/
def midNumber : List (Nat × Nat × Nat) := [
    (0x2C, 0x2C, 1), (0x3B, 0x3B, 1), (0x37E, 0x37E, 1), (0x589, 0x589, 1), (0x60C, 0x60D, 1),
    (0x66C, 0x66C, 1), (0x7F8, 0x7F8, 1), (0x2044, 0x2044, 1), (0xFE10, 0xFE10, 1),
    (0xFE14, 0xFE14, 1), (0xFE50, 0xFE50, 1), (0xFE54, 0xFE54, 1), (0xFF0C, 0xFF0C, 1),
    (0xFF1B, 0xFF1B, 1)]

/-- Signs within words and numbers. -/
def midLetterNumber : List (Nat × Nat × Nat) := [
    (0x2E, 0x2E, 1), (0x2018, 0x2019, 1), (0x2024, 0x2024, 1), (0xFE52, 0xFE52, 1),
    (0xFF07, 0xFF07, 1), (0xFF0E, 0xFF0E, 1)]

/-- Full stops and the like, which need not end a sentence. -/
def sentenceStop : List (Nat × Nat × Nat) := [
    (0x2E, 0x2E, 1), (0x2024, 0x2024, 1), (0xFE52, 0xFE52, 1), (0xFF0E, 0xFF0E, 1)]

/-- Punctuation after which a sentence goes on. -/
def sentenceContinue : List (Nat × Nat × Nat) := [
    (0x2C, 0x2D, 1), (0x3A, 0x3B, 1), (0x37E, 0x37E, 1), (0x55D, 0x55D, 1), (0x60C, 0x60D, 1),
    (0x7F8, 0x7F8, 1), (0x1802, 0x1802, 1), (0x1808, 0x1808, 1), (0x2013, 0x2014, 1),
    (0x3001, 0x3001, 1), (0xFE10, 0xFE11, 1), (0xFE13, 0xFE14, 1), (0xFE31, 0xFE32, 1),
    (0xFE50, 0xFE51, 1), (0xFE54, 0xFE55, 1), (0xFE58, 0xFE58, 1), (0xFE63, 0xFE63, 1),
    (0xFF0C, 0xFF0D, 1), (0xFF1A, 0xFF1B, 1), (0xFF64, 0xFF64, 1)]

/-- Quotation marks that are no opening or closing punctuation. -/
def otherClose : List (Nat × Nat × Nat) := [
    (0x22, 0x22, 1), (0x27, 0x27, 1), (0x275B, 0x2760, 1), (0x2E00, 0x2E01, 1), (0x2E06, 0x2E08, 1),
    (0x2E0B, 0x2E0B, 1), (0x1F676, 0x1F678, 1)]

end Shex.Pattern.Unicode
