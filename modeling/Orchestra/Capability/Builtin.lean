import Orchestra.Capability.Registry

namespace Orchestra

namespace Builtin

variable {σ : Type}

def textOutput (text : String) : Dict Json := Dict.ofList [("text", .string text)]

def textParam (params : Json) (name fallback : String) : String :=
  ((params.field? name).bind Json.string?).getD fallback

/-- Gives back the `text` parameter. -/
def echo : Handler σ where
  description := "Echo text. Args: \x7b\"text\": \"message\"\x7d"
  identity := "capflow::capabilities::builtin::EchoCapability"
  execute params _ s := (.done (textOutput (textParam params "text" "(empty)")), s)
  stream := streamWhole fun params _ s => (.done (textOutput (textParam params "text" "(empty)")), s)

/-- The text that is generated for the `prompt` parameter. -/
def generated (params : Json) : String := "Summary: " ++ textParam params "prompt" ""

/-- Cuts characters into groups of this size, the last of which may be shorter. -/
def groups (size : Nat) : Nat → List Char → List (List Char)
  | 0, _ => []
  | _ + 1, [] => []
  | fuel + 1, cs => cs.take size :: groups size fuel (cs.drop size)

/-- A text in pieces of six characters. -/
def pieces (text : String) : List String := (groups 6 text.length text.toList).map String.ofList

theorem groups_nil (size fuel : Nat) : groups size fuel [] = [] := by
  cases fuel <;> rfl

theorem groups_cons (size fuel : Nat) (c : Char) (rest : List Char) :
    groups size (fuel + 1) (c :: rest) = (c :: rest).take size :: groups size fuel ((c :: rest).drop size) := rfl

/-- Characters that are cut into groups are all there, in order. -/
theorem flatten_groups {size fuel : Nat} (positive : 0 < size) {cs : List Char} (enough : cs.length ≤ fuel) :
    (groups size fuel cs).flatten = cs := by
  induction fuel generalizing cs with
  | zero =>
    cases List.length_eq_zero_iff.mp (Nat.le_zero.mp enough)
    rfl
  | succ fuel ih =>
    cases cs with
    | nil => rfl
    | cons c rest =>
      have fewer : ((c :: rest).drop size).length ≤ fuel := by
        rw [List.length_drop]
        omega
      rw [groups_cons, List.flatten_cons, ih fewer, List.take_append_drop]

section Length

variable {size fuel : Nat} {cs group : List Char}

theorem length_of_mem_groups (positive : 0 < size) (member : group ∈ groups size fuel cs) :
    1 ≤ group.length ∧ group.length ≤ size := by
  induction fuel generalizing cs with
  | zero => cases member
  | succ fuel ih =>
    cases cs with
    | nil => cases member
    | cons c rest =>
      rcases List.mem_cons.mp member with rfl | later
      · rw [List.length_take, List.length_cons]
        omega
      · exact ih later

/-- Only the last group may be short. -/
theorem length_of_mem_dropLast_groups (member : group ∈ (groups size fuel cs).dropLast) : group.length = size := by
  induction fuel generalizing cs with
  | zero => cases member
  | succ fuel ih =>
    cases cs with
    | nil => cases member
    | cons c rest =>
      rw [groups_cons] at member
      cases more : groups size fuel ((c :: rest).drop size) with
      | nil =>
        rw [more] at member
        cases member
      | cons second others =>
        rw [more, List.dropLast_cons_cons] at member
        rcases List.mem_cons.mp member with rfl | later
        · -- Where another group follows, this one has taken all that it may.
          have remain : (c :: rest).drop size ≠ [] := by
            intro nothing
            rw [nothing, groups_nil] at more
            cases more
          rw [ne_eq, List.drop_eq_nil_iff] at remain
          rw [List.length_take]
          omega
        · exact ih (more ▸ later)

end Length

theorem join_pieces (text : String) : String.join (pieces text) = text := by
  have whole : (groups 6 text.length text.toList).flatten = text.toList :=
    flatten_groups (by decide) (Nat.le_of_eq String.length_toList)
  apply String.toList_injective
  rw [String.toList_join, pieces, List.flatMap_map]
  simpa only [String.toList_ofList, List.flatMap_id'] using whole

/-- Generates text, streamed in pieces. -/
def generateText : Handler σ where
  description := "Generate text from a prompt (chunked echo). Args: \x7b\"prompt\": \"...\"\x7d"
  identity := "capflow::capabilities::builtin::GenerateTextCapability"
  execute params _ s := (.done (textOutput (generated params)), s)
  stream params _ s := (.done ((pieces (generated params)).map .text), s)

def registry : Registry σ :=
  (Registry.mk ∅).register "echo" echo |>.register "text.generate" generateText

end Builtin

end Orchestra
