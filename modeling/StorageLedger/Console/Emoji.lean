import StorageLedger.Console.EmojiTable
import StorageLedger.Text.Blank
import StorageLedger.Text.Case

namespace StorageLedger.Console
open StorageLedger.Text

def emojiIn? (name entry : List Char) : Option (List Char) :=
  if (name ++ ['=']).isPrefixOf entry then some (entry.drop (name.length + 1)) else none

def emojiNamed? (name : List Char) : Option (List Char) :=
  emojiTable.findSome? fun line => (words isBlank line.toList).findSome? (emojiIn? name)

/-- The endings of names that ask for a form, with the selectors of the forms. -/
def emojiVariants : List (List Char × Char) :=
  [("-emoji".toList, '\uFE0F'), ("-text".toList, '\uFE0E')]

/-- A name without its variant, and the selector that the variant stands for. -/
def splitVariant (name : List Char) : List Char × List Char :=
  match emojiVariants.find? fun v => v.1.isSuffixOf name with
  | some (ending, selector) => (name.take (name.length - ending.length), [selector])
  | none => (name, [])

/-- What a name between colons stands for. -/
def expandName (name : List Char) : List Char :=
  let (base, selector) := splitVariant name
  match emojiNamed? (lower base) with
  | some emoji => emoji ++ selector
  | none => ':' :: name ++ [':']

/-- The name that a text starts with, if a colon ends it before any blank, and the rest behind the
colon. -/
def closedName? : List Char → Option (List Char × List Char)
  | [] => none
  | c :: r =>
    if c = ':' then some ([], r)
    else if isBlank c then none
    else (closedName? r).map fun (name, rest) => (c :: name, rest)

theorem closedName?_length {cs name rest : List Char} (h : closedName? cs = some (name, rest)) :
    rest.length < cs.length := by
  induction cs generalizing name with
  | nil => cases h
  | cons c r ih =>
    rw [closedName?] at h
    split at h
    · obtain ⟨rfl, rfl⟩ := h
      simp
    · split at h
      · cases h
      · obtain ⟨⟨name', rest'⟩, h', he⟩ := Option.map_eq_some_iff.mp h
        obtain ⟨rfl, rfl⟩ := he
        simpa using Nat.lt_succ_of_lt (ih h')

def expandEmoji : List Char → List Char
  | [] => []
  | c :: r =>
    if c = ':' then
      match h : closedName? r with
      | some (name, rest) =>
        have := closedName?_length h
        expandName name ++ expandEmoji rest
      | none => c :: expandEmoji r
    else c :: expandEmoji r
termination_by cs => cs.length

/-- A text without colons stands for itself. -/
theorem expandEmoji_eq_self {cs : List Char} (h : ':' ∉ cs) : expandEmoji cs = cs := by
  induction cs with
  | nil => rw [expandEmoji]
  | cons c r ih =>
    simp only [List.mem_cons, not_or] at h
    rw [expandEmoji, if_neg (Ne.symm h.1), ih h.2]

end StorageLedger.Console
