/-!
# Ideographs

The code points with the properties of ideographs and of the operators that describe them. A run
`(lo, hi, step)` stands for the code points `lo`, `lo + step`, and so on up to `hi`.
-/

namespace Shex.Pattern.Unicode

/-- Ideographs of all scripts. -/
def ideographic : List (Nat × Nat × Nat) := [
    (0x3006, 0x3007, 1), (0x3021, 0x3029, 1), (0x3038, 0x303A, 1), (0x3400, 0x4DBF, 1),
    (0x4E00, 0x9FFF, 1), (0xF900, 0xFA6D, 1), (0xFA70, 0xFAD9, 1), (0x16FE4, 0x16FE4, 1),
    (0x17000, 0x187F7, 1), (0x18800, 0x18CD5, 1), (0x18CFF, 0x18D08, 1), (0x1B170, 0x1B2FB, 1),
    (0x20000, 0x2A6DF, 1), (0x2A700, 0x2B739, 1), (0x2B740, 0x2B81D, 1), (0x2B820, 0x2CEA1, 1),
    (0x2CEB0, 0x2EBE0, 1), (0x2EBF0, 0x2EE5D, 1), (0x2F800, 0x2FA1D, 1), (0x30000, 0x3134A, 1),
    (0x31350, 0x323AF, 1)]

/-- Unified Han ideographs. -/
def unifiedIdeograph : List (Nat × Nat × Nat) := [
    (0x3400, 0x4DBF, 1), (0x4E00, 0x9FFF, 1), (0xFA0E, 0xFA0F, 1), (0xFA11, 0xFA11, 1),
    (0xFA13, 0xFA14, 1), (0xFA1F, 0xFA21, 2), (0xFA23, 0xFA24, 1), (0xFA27, 0xFA29, 1),
    (0x20000, 0x2A6DF, 1), (0x2A700, 0x2B739, 1), (0x2B740, 0x2B81D, 1), (0x2B820, 0x2CEA1, 1),
    (0x2CEB0, 0x2EBE0, 1), (0x2EBF0, 0x2EE5D, 1), (0x30000, 0x3134A, 1), (0x31350, 0x323AF, 1)]

/-- Radicals of Han ideographs. -/
def radical : List (Nat × Nat × Nat) := [
    (0x2E80, 0x2E99, 1), (0x2E9B, 0x2EF3, 1), (0x2F00, 0x2FD5, 1)]

/-- Description operators with one operand. -/
def unaryIdeographOperator : List (Nat × Nat × Nat) := [
    (0x2FFE, 0x2FFF, 1)]

/-- Description operators with two operands. -/
def binaryIdeographOperator : List (Nat × Nat × Nat) := [
    (0x2FF0, 0x2FF1, 1), (0x2FF4, 0x2FFD, 1), (0x31EF, 0x31EF, 1)]

/-- Description operators with three operands. -/
def ternaryIdeographOperator : List (Nat × Nat × Nat) := [
    (0x2FF2, 0x2FF3, 1)]

end Shex.Pattern.Unicode
