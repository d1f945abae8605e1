import Orchestra.Json.Reader
import Orchestra.Json.Text

namespace Orchestra

/-- A text in JSON: its characters, and how they are written between quotes. -/
structure LooseText where
  content : String
  spelling : String
deriving DecidableEq, Repr

/-- A value in loose JSON. Numbers stay as they are written, but in decimal digits and without a plus sign. An object
may have a name more than once. -/
inductive LooseJson where
  | null
  | truth (value : Bool)
  | number (text : String)
  | string (content : LooseText)
  | array (items : List LooseJson)
  | object (fields : List (LooseText × LooseJson))

/-- What is still to be read, and whether all that was read is JSON in the strict sense. -/
structure LooseSource where
  rest : List Char
  strict : Bool := true

abbrev LooseReader := StateT LooseSource Option

namespace LooseReader

def goOn (rest : List Char) : LooseReader Unit := modify fun source => { source with rest }

/-- Notes that something is not JSON in the strict sense. -/
def loosen : LooseReader Unit := modify fun source => { source with strict := false }

/-- Whether a character is a blank in loose JSON beside those that JSON has. -/
def isOtherBlank (c : Char) : Bool :=
  ['\x0b', '\x0c', '\u00a0', '\u1680', '\u2028', '\u2029', '\u202f', '\u205f', '\u3000', '\ufeff'].contains c ||
    ('\u2000' ≤ c && c ≤ '\u200a')

/-- What follows a comment between slashes and stars, after its first characters. -/
def afterStars? : List Char → Option (List Char)
  | '*' :: '/' :: rest => some rest
  | _ :: rest => afterStars? rest
  | [] => none

def afterLine (cs : List Char) : List Char := (cs.dropWhile fun c => !(['\n', '\r', '\u2028', '\u2029'].contains c)).tail

/-- What follows blanks and comments, at most as many as the fuel, and whether all of them are blanks of JSON. -/
def afterBlanks : Nat → List Char → List Char × Bool
  | 0, cs => (cs, true)
  | fuel + 1, cs =>
    match cs with
    | '/' :: '/' :: rest => ((afterBlanks fuel (afterLine rest)).1, false)
    | '/' :: '*' :: rest =>
      match afterStars? rest with
      | some rest => ((afterBlanks fuel rest).1, false)
      | none => (cs, true)
    | c :: rest =>
      if JsonReader.isBlank c then afterBlanks fuel rest
      else if isOtherBlank c then ((afterBlanks fuel rest).1, false)
      else (cs, true)
    | [] => ([], true)

def skipBlanks : LooseReader Unit := do
  let cs := (← get).rest
  let (rest, strict) := afterBlanks cs.length cs
  goOn rest
  unless strict do loosen

def take (c : Char) : LooseReader Bool := do
  match (← get).rest with
  | first :: rest =>
    if first = c then
      goOn rest
      return true
    else return false
  | [] => return false

/-- A part of a text: a character or a unit if it stands for one, how it is written, and whether JSON has that. -/
structure Part where
  piece : Option JsonReader.Piece
  spelling : List Char
  strict : Bool

def plainPart (c : Char) : Part := ⟨some (.char c), Json.escape c, 32 ≤ c.toNat⟩

/-- The part that a backslash and some characters are, and what follows. -/
def escaped? : List Char → Option (Part × List Char)
  | 'u' :: a :: b :: c :: d :: rest =>
    (JsonReader.hexUnit? a b c d).map fun n => (⟨some (.unit n), ['\\', 'u', a, b, c, d], true⟩, rest)
  | 'x' :: a :: b :: rest =>
    (JsonReader.hexUnit? '0' '0' a b).map fun n => (⟨some (.unit n), ['\\', 'u', '0', '0', a, b], false⟩, rest)
  | '\r' :: '\n' :: rest => some (⟨none, [], false⟩, rest)
  | c :: rest =>
    match JsonReader.escaped? c with
    | some found => some (⟨some (.char found), ['\\', c], true⟩, rest)
    | none =>
      if c = '\x27' then some (⟨some (.char c), [c], false⟩, rest)
      else if c = 'v' then some (⟨some (.char '\x0b'), "\\u0009".toList, false⟩, rest)
      else if c = '0' then some (⟨some (.char '\x00'), "\\u0000".toList, false⟩, rest)
      else if ['\n', '\r', '\u2028', '\u2029'].contains c then some (⟨none, [], false⟩, rest)
      else none
  | [] => none

/-- The parts of a string up to its closing quote, at most as many as the fuel, and what follows. -/
def parts? (quote : Char) : Nat → List Char → Option (List Part × List Char)
  | 0, _ | _, [] => none
  | fuel + 1, c :: rest =>
    if c = quote then some ([], rest)
    else do
      let (found, rest) ← if c = '\\' then escaped? rest else some (plainPart c, rest)
      let (others, rest) ← parts? quote fuel rest
      return (found :: others, rest)

/-- The characters that pieces stand for. Half of a pair is replaced. -/
def joined : List JsonReader.Piece → List Char
  | [] => []
  | .char c :: rest => c :: joined rest
  | .unit high :: .unit low :: rest =>
    if JsonReader.isHighSurrogate high && JsonReader.isLowSurrogate low then
      Char.ofNat (0x10000 + (high - 0xD800) * 0x400 + (low - 0xDC00)) :: joined rest
    else (if high.isValidChar then Char.ofNat high else '\ufffd') :: joined (.unit low :: rest)
  | .unit n :: rest => (if n.isValidChar then Char.ofNat n else '\ufffd') :: joined rest

def string (quote : Char) : LooseReader LooseText := do
  guard (← take quote)
  let cs := (← get).rest
  let (found, rest) ← parts? quote (cs.length + 1) cs
  goOn rest
  unless quote = '"' ∧ found.all Part.strict do loosen
  return {
    content := String.ofList (joined (found.filterMap Part.piece))
    spelling := String.ofList (found.flatMap Part.spelling) }

/-- The letters of a word at the front, in any case, after which none of a name may follow. -/
def startsWithWord (word : String) (cs : List Char) : Bool :=
  (cs.take word.length).map Char.toLower = word.toList && !(cs[word.length]?).any Char.isAlphanum

def wordValue? (cs : List Char) : Option (LooseJson × Nat × Bool) :=
  if "true".toList.isPrefixOf cs && startsWithWord "true" cs then some (.truth true, 4, true)
  else if "false".toList.isPrefixOf cs && startsWithWord "false" cs then some (.truth false, 5, true)
  else if "null".toList.isPrefixOf cs && startsWithWord "null" cs then some (.null, 4, true)
  else if startsWithWord "inf" cs then some (.number "9e999", 3, false)
  else if startsWithWord "infinity" cs then some (.number "9e999", 8, false)
  else if startsWithWord "nan" cs then some (.null, 3, false)
  else if startsWithWord "qnan" cs || startsWithWord "snan" cs then some (.null, 4, false)
  else none

def afterInfinity? (cs : List Char) : Option (List Char) :=
  let starts (word : String) : Bool := (cs.take word.length).map Char.toLower = word.toList
  if starts "infinity" then some (cs.drop 8) else if starts "inf" then some (cs.drop 3) else none

def digits (cs : List Char) : List Char × List Char := cs.span Char.isDigit

def exponent? : List Char → Option (List Char × List Char)
  | e :: rest =>
    if e = 'e' ∨ e = 'E' then
      let (sign, rest) := match rest with
        | '+' :: rest => (['+'], rest)
        | '-' :: rest => (['-'], rest)
        | rest => ([], rest)
      let (found, rest) := digits rest
      if found.isEmpty then none else some (e :: sign ++ found, rest)
    else some ([], e :: rest)
  | [] => some ([], [])

/-- A number in decimal digits without its sign, what follows, and whether JSON has such a number. -/
def decimal? (cs : List Char) : Option (List Char × List Char × Bool) := do
  let (whole, rest) := digits cs
  guard (whole.length ≤ 1 ∨ whole.head? ≠ some '0')
  let (fraction, rest) := match rest with
    | '.' :: rest =>
      let (found, rest) := digits rest
      (some found, rest)
    | rest => (none, rest)
  guard (¬ whole.isEmpty ∨ fraction.any fun found => !found.isEmpty)
  let (power, rest) ← exponent? rest
  let filled (found : List Char) : List Char := if found.isEmpty then ['0'] else found
  let text := filled whole ++ (fraction.elim [] fun found => '.' :: filled found) ++ power
  return (text, rest, !whole.isEmpty && fraction.all fun found => !found.isEmpty)

/-- A number without its sign, what follows, and whether JSON has such a number. -/
def magnitude? (cs : List Char) : Option (List Char × List Char × Bool) :=
  let hex : Option (List Char × List Char) := match cs with
    | '0' :: x :: rest =>
      if x = 'x' ∨ x = 'X' then some (rest.span fun c => (JsonReader.hexDigit? c).isSome) else none
    | _ => none
  match hex with
  | some (c :: found, rest) =>
    let value := (c :: found).foldl (fun n c => n * 16 + (JsonReader.hexDigit? c).getD 0) 0
    some (Nat.toDigits 10 value, rest, false)
  | _ => decimal? cs

def number : LooseReader LooseJson := do
  let cs := (← get).rest
  let (sign, cs) : Option Char × List Char := match cs with
    | '-' :: rest => (some '-', rest)
    | '+' :: rest => (some '+', rest)
    | cs => (none, cs)
  let shown (text : List Char) : LooseJson := .number (String.ofList ((sign.filter (· = '-')).toList ++ text))
  match if sign.isSome then afterInfinity? cs else none with
  | some rest =>
    goOn rest
    loosen
    return shown "9e999".toList
  | none =>
    let (text, rest, strict) ← magnitude? cs
    goOn rest
    unless strict ∧ sign ≠ some '+' do loosen
    return shown text

/-- Whether a name without quotes can start with a character. -/
def startsName (c : Char) : Bool := c.isAlpha || c = '_' || c = '$' || 0x80 ≤ c.toNat

def nameCharacters : List Char → List Char × List Char
  | '\\' :: 'u' :: a :: b :: c :: d :: rest =>
    if (JsonReader.hexUnit? a b c d).isSome then
      let (found, after) := nameCharacters rest
      ('\\' :: 'u' :: a :: b :: c :: d :: found, after)
    else ([], '\\' :: 'u' :: a :: b :: c :: d :: rest)
  | c :: rest =>
    if (startsName c || c.isDigit) && !isOtherBlank c then
      let (found, after) := nameCharacters rest
      (c :: found, after)
    else ([], c :: rest)
  | [] => ([], [])

/-- The name of a field. A word that stands for a value is none. -/
def name : LooseReader LooseText := do
  let cs := (← get).rest
  match cs with
  | [] => failure
  | c :: _ =>
    if c = '"' ∨ c = '\x27' then string c
    else
      guard (wordValue? cs).isNone
      guard (startsName c ∨ c = '\\')
      let (found, rest) := nameCharacters cs
      guard (found ≠ [])
      goOn rest
      loosen
      return ⟨String.ofList found, String.ofList found⟩

/-- Items up to a closing character, after the first. There may be a comma at the end. -/
def items {α : Type} (item : LooseReader α) (close : Char) : Nat → LooseReader (List α)
  | 0 => failure
  | fuel + 1 => do
    skipBlanks
    if ← take close then return []
    guard (← take ',')
    skipBlanks
    if ← take close then
      loosen
      return []
    let first ← item
    return first :: (← items item close fuel)

def enclosed {α : Type} (item : LooseReader α) (opening close : Char) : LooseReader (List α) := do
  guard (← take opening)
  skipBlanks
  if ← take close then return []
  let first ← item
  return first :: (← items item close ((← get).rest.length + 1))

/-- A value, blanks before it included, given a reader for the values inside, if there may be any. -/
def valueWith (inner : Option (LooseReader LooseJson)) : LooseReader LooseJson := do
  skipBlanks
  let cs := (← get).rest
  match cs with
  | '"' :: _ => .string <$> string '"'
  | '\x27' :: _ => .string <$> string '\x27'
  | '[' :: _ =>
    let item ← inner
    .array <$> enclosed item '[' ']'
  | '\x7b' :: _ =>
    let item ← inner
    let field : LooseReader (LooseText × LooseJson) := do
      let key ← name
      skipBlanks
      guard (← take ':')
      return (key, ← item)
    .object <$> enclosed field '\x7b' '\x7d'
  | cs =>
    if cs.head?.any fun c => c.isDigit || ['-', '+', '.'].contains c then number
    else
      let (found, length, strict) ← wordValue? cs
      goOn (cs.drop length)
      unless strict do loosen
      return found

def depthBound : Nat := 1000

/-- A value in which others are nested at most so deep. -/
def value : Nat → LooseReader LooseJson
  | 0 => valueWith none
  | depth + 1 => valueWith (some (value depth))

/-- A text that is a value, which a zero ends. -/
def document : LooseReader LooseJson := do
  let found ← value depthBound
  skipBlanks
  guard (← get).rest.isEmpty
  return found

end LooseReader

namespace LooseJson

def ofText? (text : String) : Option (LooseJson × Bool) :=
  (LooseReader.document.run { rest := text.toList.takeWhile (· ≠ '\x00') }).map fun (found, source) =>
    (found, source.strict)

def ofString (content : String) : LooseText :=
  { content, spelling := String.ofList (content.toList.flatMap Json.escape) }

def quoted (text : LooseText) : String := "\"" ++ text.spelling ++ "\""

mutual

def text : LooseJson → String
  | null => "null"
  | truth value => if value then "true" else "false"
  | number text => text
  | string content => quoted content
  | array items => "[" ++ ",".intercalate (itemTexts items) ++ "]"
  | object fields => "\x7b" ++ ",".intercalate (fieldTexts fields) ++ "\x7d"

def itemTexts : List LooseJson → List String
  | [] => []
  | item :: rest => text item :: itemTexts rest

def fieldTexts : List (LooseText × LooseJson) → List String
  | [] => []
  | (key, value) :: rest => (quoted key ++ ":" ++ text value) :: fieldTexts rest

end

end LooseJson

end Orchestra
