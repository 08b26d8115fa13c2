import QueryTree.Config.Basic
import QueryTree.Text.Lines

/-! Configurations as TOML text. All settings are whole numbers or booleans at the top level, so a
text that is accepted consists of blank lines, comments and lines of one setting each. -/
namespace QueryTree
namespace Config

inductive TomlValue where
  | integer (n : Int)
  | boolean (b : Bool)
  deriving DecidableEq, Repr

namespace Toml

def isSpace (c : Char) : Bool := c = ' ' || c = '\t'

def skipSpace (text : List Char) : List Char := text.dropWhile isSpace

def isVisible (c : Char) : Bool := c = '\t' || (0x20 ≤ c.toNat && c.toNat ≠ 0x7F)

def isBlankLine (text : List Char) : Bool :=
  match skipSpace text with
  | [] => true
  | c :: comment => c = '#' && comment.all isVisible

def isBareKey (c : Char) : Bool := c.isAlphanum || c = '_' || c = '-'

def digitOf? (base : Nat) (c : Char) : Option Nat :=
  let value :=
    if c.isDigit then c.toNat - '0'.toNat
    else if 'a' ≤ c ∧ c ≤ 'f' then c.toNat - 'a'.toNat + 10
    else if 'A' ≤ c ∧ c ≤ 'F' then c.toNat - 'A'.toNat + 10
    else base
  if value < base then some value else none

def plainNumber? (base : Nat) (digits : List Char) : Option Nat :=
  digits.foldlM (fun value c => (digitOf? base c).map (base * value + ·)) 0

def unicodeChar? (digits : List Char) : Option Char := do
  let n ← plainNumber? 16 digits
  if n < 0xD800 ∨ 0xDFFF < n ∧ n < 0x110000 then some (Char.ofNat n) else none

def basicKey? : List Char → Option (List Char × List Char)
  | [] => none
  | '"' :: rest => some ([], rest)
  | '\\' :: 'u' :: a :: b :: c :: d :: rest => do
    let char ← unicodeChar? [a, b, c, d]
    let (key, rest) ← basicKey? rest
    return (char :: key, rest)
  | '\\' :: 'U' :: a :: b :: c :: d :: e :: f :: g :: h :: rest => do
    let char ← unicodeChar? [a, b, c, d, e, f, g, h]
    let (key, rest) ← basicKey? rest
    return (char :: key, rest)
  | '\\' :: e :: rest => do
    let char ←
      if e = 'b' then some '\x08'
      else if e = 't' then some '\t'
      else if e = 'n' then some '\n'
      else if e = 'f' then some '\x0c'
      else if e = 'r' then some '\r'
      else if e = '"' ∨ e = '\\' then some e
      else none
    let (key, rest) ← basicKey? rest
    return (char :: key, rest)
  | c :: rest => do
    if isVisible c ∧ c ≠ '\\' then
      let (key, rest) ← basicKey? rest
      return (c :: key, rest)
    else none

def key? : List Char → Option (String × List Char)
  | '"' :: rest => (basicKey? rest).map fun (key, rest) => (String.ofList key, rest)
  | '\'' :: rest =>
    match rest.dropWhile (fun c => isVisible c && c ≠ '\'') with
    | '\'' :: after => some (String.ofList (rest.takeWhile fun c => isVisible c && c ≠ '\''), after)
    | _ => none
  | text =>
    match text.takeWhile isBareKey with
    | [] => none
    | key => some (String.ofList key, text.dropWhile isBareKey)

def groupedFrom? (base : Nat) : (read : Nat) → List Char → Option Nat
  | read, [] => some read
  | read, '_' :: c :: rest => do groupedFrom? base (base * read + (← digitOf? base c)) rest
  | read, c :: rest => do groupedFrom? base (base * read + (← digitOf? base c)) rest

def grouped? (base : Nat) : List Char → Option Nat
  | [] => none
  | c :: rest => do groupedFrom? base (← digitOf? base c) rest

def decimal? : List Char → Option Nat
  | ['0'] => some 0
  | '0' :: _ => none
  | digits => grouped? 10 digits

def integer? : List Char → Option Int
  | '0' :: 'x' :: digits => (grouped? 16 digits).map Int.ofNat
  | '0' :: 'o' :: digits => (grouped? 8 digits).map Int.ofNat
  | '0' :: 'b' :: digits => (grouped? 2 digits).map Int.ofNat
  | '+' :: digits => (decimal? digits).map Int.ofNat
  | '-' :: digits => (decimal? digits).map fun n => -(n : Int)
  | digits => (decimal? digits).map Int.ofNat

def value? (word : List Char) : Option TomlValue :=
  if word = ['t', 'r', 'u', 'e'] then some (.boolean true)
  else if word = ['f', 'a', 'l', 's', 'e'] then some (.boolean false)
  else do
    let n ← integer? word
    if -9223372036854775808 ≤ n ∧ n ≤ 9223372036854775807 then some (.integer n) else none

def setting? (line : List Char) : Option (String × TomlValue) := do
  let (key, rest) ← key? (skipSpace line)
  match skipSpace rest with
  | '=' :: rest =>
    let rest := skipSpace rest
    let inWord (c : Char) : Bool := !(isSpace c || c = '#')
    let value ← value? (rest.takeWhile inWord)
    if isBlankLine (rest.dropWhile inWord) then some (key, value) else none
  | _ => none

def settings? : List (List Char) → Option (List (String × TomlValue))
  | [] => some []
  | line :: rest =>
    if isBlankLine line then settings? rest
    else do
      let setting ← setting? line
      let settings ← settings? rest
      return setting :: settings

def dropMark : List Char → List Char
  | '\ufeff' :: text => text
  | text => text

end Toml

def set? (c : Config) : Key → TomlValue → Option Config
  | .maxFilterDepth, .integer n => if 0 ≤ n then some { c with maxFilterDepth := n.toNat } else none
  | .maxFilterNodes, .integer n =>
    if 0 ≤ n then some { c with maxFilterNodes := some n.toNat } else none
  | .strictFieldRefs, .boolean b => some { c with strictFieldRefs := b }
  | .honorConditionOperators, .boolean b => some { c with honorConditionOperators := b }
  | _, _ => none

def ofSettings? : (given : List Key) → Config → List (String × TomlValue) → Option Config
  | _, c, [] => some c
  | given, c, (name, value) :: rest => do
    let key ← record.ofName? name
    if given.contains key then none
    else
      let c ← c.set? key value
      ofSettings? (key :: given) c rest

def ofToml? (text : String) : Option Config := do
  let settings ← Toml.settings? (Text.lineParts (Toml.dropMark text.toList))
  ofSettings? [] standard settings

end Config

inductive FileFault where
  | missing
  | isDirectory
  | notDirectory
  | denied
  | notText
  deriving DecidableEq, Repr

def FileFault.message : FileFault → String
  | .missing => "No such file or directory (os error 2)"
  | .isDirectory => "Is a directory (os error 21)"
  | .notDirectory => "Not a directory (os error 20)"
  | .denied => "Permission denied (os error 13)"
  | .notText => "stream did not contain valid UTF-8"

inductive ConfigError where
  | unreadable (path : String) (fault : FileFault)
  | unparsable
  | zeroDepth
  deriving DecidableEq, Repr

/- What a parser says behind `Failed to parse config` is left out. -/
def ConfigError.message : ConfigError → String
  | .unreadable path fault =>
    "Configuration error: Failed to read " ++ path ++ ": " ++ fault.message
  | .unparsable => "Configuration error: Failed to parse config"
  | .zeroDepth => "Configuration error: max_filter_depth must be at least 1"

def Config.ofToml (text : String) : Except ConfigError Config :=
  match Config.ofToml? text with
  | none => .error .unparsable
  | some c => if c.maxFilterDepth = 0 then .error .zeroDepth else .ok c

end QueryTree
