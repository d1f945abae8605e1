import Orchestra.Json.Reader

namespace Orchestra

namespace TomlQuoted

/-- A character that may stand for itself inside quotes of either kind, line ends apart. -/
def isPlain (c : Char) : Bool := c = '\t' || (0x20 ≤ c.toNat && c.toNat ≠ 0x7F)

def hexValue? (digits : List Char) : Option Nat :=
  digits.foldl (fun n c =>
    match n, JsonReader.hexDigit? c with
    | some n, some d => some (n * 16 + d)
    | _, _ => none) (some 0)

/-- The character with a code point that is written in hexadecimal digits. -/
def charOfHex? (digits : List Char) : Option Char :=
  (hexValue? digits).bind fun n => if n.isValidChar then some (Char.ofNat n) else none

/-- What a backslash and one letter stand for. -/
def escaped? : Char → Option Char
  | 'b' => some '\x08'
  | 't' => some '\t'
  | 'n' => some '\n'
  | 'f' => some '\x0c'
  | 'r' => some '\r'
  | '"' => some '"'
  | '\\' => some '\\'
  | _ => none

def push (c : Char) : List Char × List Char → List Char × List Char
  | (text, after) => (c :: text, after)

/-- A string in double quotes on one line. -/
def basic? : List Char → Option (List Char × List Char)
  | [] => none
  | '"' :: rest => some ([], rest)
  | '\\' :: 'u' :: a :: b :: c :: d :: rest =>
    (charOfHex? [a, b, c, d]).bind fun x => (basic? rest).map (push x)
  | '\\' :: 'U' :: a :: b :: c :: d :: e :: f :: g :: h :: rest =>
    (charOfHex? [a, b, c, d, e, f, g, h]).bind fun x => (basic? rest).map (push x)
  | '\\' :: letter :: rest => (escaped? letter).bind fun x => (basic? rest).map (push x)
  | c :: rest => if isPlain c ∧ c ≠ '\\' then (basic? rest).map (push c) else none

/-- A string in single quotes on one line. -/
def literal? : List Char → Option (List Char × List Char)
  | [] => none
  | '\x27' :: rest => some ([], rest)
  | c :: rest => if isPlain c then (literal? rest).map (push c) else none

def isBlank (c : Char) : Bool := c = ' ' || c = '\t'

/-- Whether a line ends here, blanks aside. -/
def atLineEnd (cs : List Char) : Bool :=
  match cs.dropWhile isBlank with
  | '\n' :: _ => true
  | '\r' :: '\n' :: _ => true
  | _ => false

/-- A string in three double quotes. While `trimming`, blanks and line ends are left out; a backslash at the
end of a line starts that. One or two quotes may stand before the closing three. -/
def multiBasic? : Bool → List Char → Option (List Char × List Char)
  | _, [] => none
  | true, ' ' :: rest => multiBasic? true rest
  | true, '\t' :: rest => multiBasic? true rest
  | true, '\n' :: rest => multiBasic? true rest
  | true, '\r' :: '\n' :: rest => multiBasic? true rest
  | _, '"' :: '"' :: '"' :: '"' :: '"' :: rest => some (['"', '"'], rest)
  | _, '"' :: '"' :: '"' :: '"' :: rest => some (['"'], rest)
  | _, '"' :: '"' :: '"' :: rest => some ([], rest)
  | _, '\\' :: 'u' :: a :: b :: c :: d :: rest =>
    (charOfHex? [a, b, c, d]).bind fun x => (multiBasic? false rest).map (push x)
  | _, '\\' :: 'U' :: a :: b :: c :: d :: e :: f :: g :: h :: rest =>
    (charOfHex? [a, b, c, d, e, f, g, h]).bind fun x => (multiBasic? false rest).map (push x)
  | _, '\\' :: letter :: rest =>
    if atLineEnd (letter :: rest) then multiBasic? true (letter :: rest)
    else (escaped? letter).bind fun x => (multiBasic? false rest).map (push x)
  | _, '\r' :: '\n' :: rest => (multiBasic? false rest).map (push '\n')
  | _, c :: rest =>
    if c = '\n' ∨ (isPlain c ∧ c ≠ '\\') then (multiBasic? false rest).map (push c) else none

/-- A string in three single quotes. -/
def multiLiteral? : List Char → Option (List Char × List Char)
  | [] => none
  | '\x27' :: '\x27' :: '\x27' :: '\x27' :: '\x27' :: rest => some (['\x27', '\x27'], rest)
  | '\x27' :: '\x27' :: '\x27' :: '\x27' :: rest => some (['\x27'], rest)
  | '\x27' :: '\x27' :: '\x27' :: rest => some ([], rest)
  | '\r' :: '\n' :: rest => (multiLiteral? rest).map (push '\n')
  | c :: rest => if c = '\n' ∨ isPlain c then (multiLiteral? rest).map (push c) else none

/-- Leaves out a line end right after opening quotes. -/
def skipLineEnd : List Char → List Char
  | '\n' :: rest => rest
  | '\r' :: '\n' :: rest => rest
  | cs => cs

/-- A string of any kind, from its opening quotes on. -/
def string? : List Char → Option (String × List Char)
  | '"' :: '"' :: '"' :: rest => (multiBasic? false (skipLineEnd rest)).map finished
  | '"' :: rest => (basic? rest).map finished
  | '\x27' :: '\x27' :: '\x27' :: rest => (multiLiteral? (skipLineEnd rest)).map finished
  | '\x27' :: rest => (literal? rest).map finished
  | _ => none
where
  finished : List Char × List Char → String × List Char
    | (text, after) => (String.ofList text, after)

end TomlQuoted

end Orchestra
