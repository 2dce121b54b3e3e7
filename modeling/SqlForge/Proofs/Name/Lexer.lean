import Mathlib.Data.List.Chain
import SqlForge.Proofs.Name.Lexeme

/-!
Reading a whole text. A sequence of tokens without two operands side by side is read as it is meant.
-/

namespace SqlForge

open Lexeme

variable {d : Dialect} {cs : List Char} {lexeme : Lexeme} {lexemes : List Lexeme}

theorem length_lt_of_lexeme? {rest : List Char} (h : lexeme? d cs = some (lexeme, rest))
    : rest.length < cs.length := by
  obtain ⟨hallowed, heq⟩ := lexeme?_eq_some h
  have hpos := List.length_pos_iff.mpr (spell_ne_nil hallowed)
  rw [heq, List.length_append]
  omega

/-- The tokens of a text, if there is nothing else in it. -/
def lex (d : Dialect) (cs : List Char) : Option (List Lexeme) :=
  match cs with
  | [] => some []
  | c :: cs =>
    match _h : lexeme? d (c :: cs) with
    | some (lexeme, rest) => (lex d rest).map (lexeme :: ·)
    | none => none
termination_by cs.length
decreasing_by exact length_lt_of_lexeme? _h

def spellAll (d : Dialect) (lexemes : List Lexeme) : String :=
  String.join (lexemes.map (spell d))

theorem spellAll_cons (d : Dialect) (lexeme : Lexeme) (lexemes : List Lexeme)
    : spellAll d (lexeme :: lexemes) = lexeme.spell d ++ spellAll d lexemes := by
  rw [spellAll, List.map_cons, String.join_cons, spellAll]

theorem spellAll_append (d : Dialect) (lexemes more : List Lexeme)
    : spellAll d (lexemes ++ more) = spellAll d lexemes ++ spellAll d more := by
  rw [spellAll, List.map_append, String.join_append, spellAll, spellAll]

theorem spellAll_of_lex (h : lex d cs = some lexemes)
    : (spellAll d lexemes).toList = cs ∧ ∀ lexeme ∈ lexemes, lexeme.Allowed d := by
  fun_induction lex d cs generalizing lexemes with
  | case1 =>
    cases h
    exact ⟨by simp [spellAll], nofun⟩
  | case2 c cs lexeme rest hlexeme ih =>
    obtain ⟨more, hmore, rfl⟩ := Option.map_eq_some_iff.mp h
    obtain ⟨hrest, hallowed⟩ := ih hmore
    obtain ⟨hfirst, heq⟩ := lexeme?_eq_some hlexeme
    constructor
    . rw [spellAll_cons, String.toList_append, hrest, heq]
    . exact List.forall_mem_cons.mpr ⟨hfirst, hallowed⟩
  | case3 => contradiction

theorem lex_of_lexeme? {rest : List Char} (h : lexeme? d cs = some (lexeme, rest))
    : lex d cs = (lex d rest).map (lexeme :: ·) := by
  cases cs with
  | nil =>
    have hlength := length_lt_of_lexeme? h
    contradiction
  | cons c cs =>
    rw [lex]
    split
    . next found tail hfound =>
      rw [h] at hfound
      cases hfound
      rfl
    . next hnone =>
      rw [h] at hnone
      contradiction

def Lexeme.Apart (lexeme next : Lexeme) : Prop :=
  lexeme.isOperand → next.isOperand = false

theorem lex_spellAll (hallowed : ∀ lexeme ∈ lexemes, lexeme.Allowed d)
    (hapart : lexemes.IsChain Apart) : lex d (spellAll d lexemes).toList = some lexemes := by
  induction lexemes with
  | nil =>
    rw [spellAll, List.map_nil, String.join_nil, String.toList_empty, lex]
  | cons lexeme lexemes ih =>
    obtain ⟨hfirst, hrest⟩ := List.forall_mem_cons.mp hallowed
    have hread : lexeme? d ((lexeme.spell d).toList ++ (spellAll d lexemes).toList)
        = some (lexeme, (spellAll d lexemes).toList) := by
      cases lexemes with
      | nil =>
        apply lexeme?_spell hfirst
        . simp [spellAll]
        . simp [spellAll]
      | cons next lexemes =>
        obtain ⟨c, tail, hc, harrow, hnext⟩ := head_spell (hrest next List.mem_cons_self)
        rw [spellAll_cons d next, String.toList_append, hc, List.cons_append]
        apply lexeme?_spell hfirst
        . simpa using harrow
        . intro hoperand other hother
          cases hother
          exact hnext (hapart.rel hoperand)
    rw [spellAll_cons, String.toList_append, lex_of_lexeme? hread, ih hrest hapart.tail]
    rfl

/-- The tokens make up the text, and are what is read from it. -/
structure Spelled (d : Dialect) (s : String) (lexemes : List Lexeme) : Prop where
  text : spellAll d lexemes = s
  allowed : ∀ lexeme ∈ lexemes, lexeme.Allowed d
  apart : lexemes.IsChain Apart

namespace Spelled

variable {s t : String} {word : Lexeme} {more : List Lexeme}

theorem lex_eq (h : Spelled d s lexemes) : lex d s.toList = some lexemes := by
  rw [← h.text]
  exact lex_spellAll h.allowed h.apart

theorem nil (d : Dialect) : Spelled d "" [] where
  text := String.join_nil
  allowed := nofun
  apart := .nil

theorem singleton (h : lexeme.Allowed d) : Spelled d (lexeme.spell d) [lexeme] where
  text := by simp [spellAll]
  allowed := by simpa using h
  apart := .singleton lexeme

theorem append (h : Spelled d s lexemes) (hword : word.isOperand = false)
    (hmore : Spelled d t (word :: more)) : Spelled d (s ++ t) (lexemes ++ word :: more) where
  text := by rw [spellAll_append, h.text, hmore.text]
  allowed := List.forall_mem_append.mpr ⟨h.allowed, hmore.allowed⟩
  apart := by
    apply h.apart.append hmore.apart
    intro last _ next hnext _
    cases hnext
    exact hword

theorem cons (hword : word.Allowed d) (hfree : word.isOperand = false)
    (h : Spelled d s lexemes) : Spelled d (word.spell d ++ s) (word :: lexemes) where
  text := by rw [spellAll_cons, h.text]
  allowed := List.forall_mem_cons.mpr ⟨hword, h.allowed⟩
  apart := by
    rw [List.isChain_cons]
    refine ⟨?_, h.apart⟩
    intro next _ hoperand
    rw [hfree] at hoperand
    contradiction

end Spelled

end SqlForge
