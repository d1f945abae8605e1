namespace Orchestra

namespace Likeness

/-- Whether a text fits a pattern in which a percent sign stands for any text and an underscore for any character. A
character after the one that escapes stands for itself. There are at most as many steps as the fuel. -/
def isLike (escape : Option Char) : Nat → List Char → List Char → Bool
  | 0, _, _ => false
  | _, [], cs => cs.isEmpty
  | fuel + 1, p :: pattern, cs =>
    if escape = some p then
      match pattern, cs with
      | e :: pattern, c :: cs => e.toLower = c.toLower && isLike escape fuel pattern cs
      | _, _ => false
    else if p = '%' then
      isLike escape fuel pattern cs ||
        match cs with
        | _ :: cs => isLike escape fuel (p :: pattern) cs
        | [] => false
    else
      match cs with
      | c :: cs => (p = '_' || p.toLower = c.toLower) && isLike escape fuel pattern cs
      | [] => false

/-- A set of characters after its opening bracket: whether a character is in it, and what follows the set. -/
def inSet (c : Char) : List Char → Option (Bool × List Char)
  | low :: '-' :: high :: rest =>
    if low = ']' then some (false, '-' :: high :: rest)
    else if high = ']' then some (c = low || c = '-', rest)
    else (inSet c rest).map fun (found, after) => (found || (low ≤ c && c ≤ high), after)
  | d :: rest =>
    if d = ']' then some (false, rest) else (inSet c rest).map fun (found, after) => (found || c = d, after)
  | [] => none

/-- A set whose first character may be a bracket. Another one before it makes it stand for all other characters. -/
def fitsSet (c : Char) (cs : List Char) : Option (Bool × List Char) :=
  let (inverted, cs) : Bool × List Char := match cs with
    | '^' :: rest => (true, rest)
    | cs => (false, cs)
  let found : Option (Bool × List Char) := match cs with
    | ']' :: rest => (inSet c rest).map fun (found, after) => (found || c = ']', after)
    | cs => inSet c cs
  found.map fun (found, after) => (found != inverted, after)

/-- Whether a text fits a pattern with stars, question marks and sets. There are at most as many steps as the fuel. -/
def isGlob : Nat → List Char → List Char → Bool
  | 0, _, _ => false
  | _, [], cs => cs.isEmpty
  | fuel + 1, '*' :: pattern, cs =>
    isGlob fuel pattern cs ||
      match cs with
      | _ :: cs => isGlob fuel ('*' :: pattern) cs
      | [] => false
  | _, _, [] => false
  | fuel + 1, '?' :: pattern, _ :: cs => isGlob fuel pattern cs
  | fuel + 1, '[' :: pattern, c :: cs =>
    match fitsSet c pattern with
    | some (true, pattern) => isGlob fuel pattern cs
    | _ => false
  | fuel + 1, p :: pattern, c :: cs => p = c && isGlob fuel pattern cs

def steps (pattern text : String) : Nat := pattern.length + text.length + 1

def like (escape : Option Char) (pattern text : String) : Bool :=
  isLike escape (steps pattern text) pattern.toList text.toList

def glob (pattern text : String) : Bool := isGlob (steps pattern text) pattern.toList text.toList

end Likeness

end Orchestra
