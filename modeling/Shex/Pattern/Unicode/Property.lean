import Shex.Pattern.Unicode.Age
import Shex.Pattern.Unicode.Binary
import Shex.Pattern.Unicode.ScriptExtension

/-!
# Properties by name

The sets of characters that a pattern can name: general categories, scripts, properties that a
character has or has not, and the values of the properties that have more than two. Names are
compared without regard to case, spaces, hyphens and underscores, and the word `is` may stand before
them.
-/

namespace Shex.Pattern.Unicode

/-- The text after the word `is`, if it begins with it. -/
def afterIs? : List Char → Option (List Char)
  | 'i' :: 's' :: rest | 'I' :: 's' :: rest | 'i' :: 'S' :: rest | 'I' :: 'S' :: rest => some rest
  | _ => none

/-- The ASCII characters of a name without spaces, hyphens and underscores, in small letters. -/
def plainName (cs : List Char) : String :=
  .ofList ((cs.filter fun c => c.toNat < 128 && c ≠ ' ' && c ≠ '_' && c ≠ '-').map Char.toLower)

/-- A name as it is compared: without the word `is` at its start. The name `isc` is that of a
property of its own. -/
def normalName (cs : List Char) : String :=
  match afterIs? cs with
  | some rest => if plainName rest = "c" then "isc" else plainName rest
  | none => plainName cs

/-- The characters that the script with a name is used with. Those that every script uses, or that
take the script of the character before them, are only the ones that no script shares. -/
def scriptExtension? (name : String) : Option CharSet := do
  let s ← script? name
  let name := (scriptCodes.lookup name).getD name
  if name = "common" || name = "inherited" then
    return s.diff (.ofRuns (sharedByScript.flatMap Prod.snd))
  else return s.union (.ofRuns ((sharedByScript.lookup name).getD []))

/-- The characters that were assigned in a version of Unicode or earlier. -/
def age? (version : String) : Option CharSet :=
  let isNamed (v : String) : Bool := v = version || "v" ++ v.replace "." "" = version
  let (earlier, later) := ages.span fun (v, _) => !isNamed v
  later.head?.map fun (_, runs) => .ofRuns (earlier.flatMap Prod.snd ++ runs)

/-- The text before and after the first place where `sep` stands. -/
def splitAt? (sep : List Char) : List Char → Option (List Char × List Char)
  | [] => none
  | c :: cs =>
    if sep.isPrefixOf (c :: cs) then some ([], (c :: cs).drop sep.length)
    else (splitAt? sep cs).map fun (before, after) => (c :: before, after)

/-- The characters that a name by itself stands for. -/
def named? (name : List Char) : Option CharSet :=
  let n := normalName name
  binary? n <|> category? n <|> script? n

/-- The characters with a value of a property. -/
def valued? (name value : List Char) : Option CharSet :=
  let v := normalName value
  match normalName name with
  | "gc" | "generalcategory" => category? v
  | "sc" | "script" => script? v
  | "scx" | "scriptextensions" => scriptExtension? v
  | "age" => age? v
  | "gcb" | "graphemeclusterbreak" => graphemeBreak? v
  | "wb" | "wordbreak" => wordBreak? v
  | "sb" | "sentencebreak" => sentenceBreak? v
  | _ => none

/-- The characters that a name stands for, and whether their complement is meant. It is a name by
itself, or the name of a property and its value with `!=`, `:` or `=` between them. The first asks
for another value. -/
def property? (name : List Char) : Option (Bool × CharSet) :=
  match splitAt? ['!', '='] name with
  | some (p, v) => (valued? p v).map (true, ·)
  | none =>
    match splitAt? [':'] name <|> splitAt? ['='] name with
    | some (p, v) => (valued? p v).map (false, ·)
    | none => (named? name).map (false, ·)

end Shex.Pattern.Unicode
