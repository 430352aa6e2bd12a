import Mathlib.Data.List.Basic
import WarpStream.GoText

set_option autoImplicit false

namespace GoUrl

open GoText

-- The parts around the last occurrence of a rune.
def cutLast (mark : Char) : List Char → Option (List Char × List Char)
  | [] => none
  | rune :: rest =>
      match cutLast mark rest with
      | some (before, after) => some (rune :: before, after)
      | none => if rune = mark then some ([], rest) else none

theorem cut_last_absent (mark : Char) (text : List Char) (absent : mark ∉ text) : cutLast mark text = none := by
  induction text with
  | nil => rfl
  | cons rune rest ih =>
      rw [List.mem_cons, not_or] at absent
      rw [cutLast, ih absent.2]
      exact if_neg (Ne.symm absent.1)

theorem cut_last_found (mark : Char) (before after : List Char) (absent : mark ∉ after) :
    cutLast mark (before ++ mark :: after) = some (before, after) := by
  induction before with
  | nil =>
      rw [List.nil_append, cutLast, cut_last_absent mark after absent]
      exact if_pos rfl
  | cons rune rest ih => rw [List.cons_append, cutLast, ih]

def splitPort (text : List Char) : List Char × List Char :=
  match cutLast ':' text with
  | some (before, after) => if after.all Char.isDigit then (before, after) else (text, [])
  | none => (text, [])

def stripBrackets (name : List Char) : List Char :=
  if name.head? = some '[' ∧ name.getLast? = some ']' then name.tail.dropLast else name

-- URL.Hostname and URL.Port of a host as url.Parse leaves it.
def splitHost (host : String) : String × String :=
  let (name, port) := splitPort host.toList
  (String.ofList (stripBrackets name), String.ofList port)

-- A host with or without a port. An address with colons stands in brackets.
structure Authority where
  host : String
  port : Option String
  named : host ≠ ""
  bare : '[' ∉ host.toList ∧ ']' ∉ host.toList
  digits : ∀ text ∈ port, text ≠ "" ∧ ∀ rune ∈ text.toList, rune.isDigit = true

def Authority.bracketed (authority : Authority) : List Char :=
  if ':' ∈ authority.host.toList then '[' :: (authority.host.toList ++ [']']) else authority.host.toList

def Authority.text (authority : Authority) : String :=
  String.ofList (authority.bracketed ++ (authority.port.map fun port => ':' :: port.toList).getD [])

theorem join_bracketed (authority : Authority) (port : String) :
    joinHostPort authority.host port = String.ofList (authority.bracketed ++ ':' :: port.toList) := by
  rw [← String.ofList_toList (s := joinHostPort authority.host port), join_host_port_to_list, Authority.bracketed]
  split <;> simp

theorem bracketed_stripped (authority : Authority) : stripBrackets authority.bracketed = authority.host.toList := by
  unfold stripBrackets Authority.bracketed
  by_cases colon : ':' ∈ authority.host.toList
  · rw [if_pos colon, if_pos ⟨rfl, by rw [← List.cons_append, List.getLast?_concat]⟩, List.tail_cons, List.dropLast_concat]
  · rw [if_neg colon, if_neg]
    rintro ⟨first, _⟩
    exact authority.bare.1 (List.mem_of_mem_head? first)

theorem digits_plain (text : List Char) (digits : ∀ rune ∈ text, rune.isDigit = true) (mark : Char) (other : mark.isDigit = false) :
    mark ∉ text := by
  intro member
  rw [digits mark member] at other
  cases other

-- Without a port the last colon, if there is one, is inside the brackets.
theorem cut_bracketed (authority : Authority) :
    cutLast ':' authority.bracketed = none ∨ ∃ before after, cutLast ':' authority.bracketed = some (before, after) ∧ ']' ∈ after := by
  unfold Authority.bracketed
  by_cases colon : ':' ∈ authority.host.toList
  · obtain ⟨before, after, parts, absent⟩ := last_occurrence ':' authority.host.toList colon
    refine .inr ⟨'[' :: before, after ++ [']'], ?_, by simp⟩
    rw [if_pos colon, parts, List.append_assoc, ← List.cons_append, List.cons_append]
    exact cut_last_found ':' ('[' :: before) (after ++ [']']) (by simpa using absent)
  · exact .inl (by rw [if_neg colon]; exact cut_last_absent ':' _ colon)

theorem split_port_authority (authority : Authority) :
    splitPort authority.text.toList = (authority.bracketed, (authority.port.map String.toList).getD []) := by
  rw [Authority.text, String.toList_ofList, splitPort]
  cases port : authority.port with
  | none =>
      rw [Option.map_none, Option.getD_none, List.append_nil]
      rcases cut_bracketed authority with none | ⟨before, after, found, closing⟩
      · rw [none]
        rfl
      · rw [found]
        have mixed : after.all Char.isDigit = false := by
          rw [List.all_eq_false]
          exact ⟨']', closing, by decide⟩
        simp only [mixed, Bool.false_eq_true, if_false]
        rfl
  | some text =>
      have digits := (authority.digits text port).2
      rw [Option.map_some, Option.getD_some, cut_last_found ':' _ _ (digits_plain _ digits ':' (by decide))]
      have all : text.toList.all Char.isDigit = true := List.all_eq_true.mpr digits
      simp only [all, if_true]
      rfl

theorem split_authority (authority : Authority) : splitHost authority.text = (authority.host, authority.port.getD "") := by
  rw [splitHost, split_port_authority]
  simp only [bracketed_stripped, String.ofList_toList]
  cases authority.port with
  | none => rfl
  | some text => simp

end GoUrl
