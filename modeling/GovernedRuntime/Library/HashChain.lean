/-
Chains whose every entry is linked to the end of the chain before it: the end of a
chain commits to all its entries.
-/
import Mathlib.Data.List.Forall2

namespace GovernedRuntime.Library

variable {Entry Hash : Type}

/-- A chain from `start`.  A link may depend on the entries before it. -/
inductive HashChain (start : Hash) (link : List Entry → Hash → Entry → Hash → Prop) :
    List Entry → Hash → Prop where
  | nil : HashChain start link [] start
  | snoc {entries : List Entry} {last next : Hash} {entry : Entry}
      (hchain : HashChain start link entries last) (hlink : link entries last entry next) :
      HashChain start link (entries ++ [entry]) next

theorem hashChain_concat_iff {start : Hash} {link : List Entry → Hash → Entry → Hash → Prop}
    {entries : List Entry} {entry : Entry} {next : Hash} :
    HashChain start link (entries ++ [entry]) next ↔
      ∃ last, HashChain start link entries last ∧ link entries last entry next := by
  constructor
  · intro hchain
    generalize heq : entries ++ [entry] = all at hchain
    cases hchain with
    | nil => exact absurd heq (List.append_ne_nil_of_right_ne_nil _ (List.cons_ne_nil _ _))
    | snoc hchain hlink =>
        obtain ⟨rfl, hentry⟩ := List.append_inj' heq rfl
        cases hentry
        exact ⟨_, hchain, hlink⟩
  · rintro ⟨last, hchain, hlink⟩
    exact .snoc hchain hlink

section SameEnd

variable {start : Hash} {link link' : List Entry → Hash → Entry → Hash → Prop}
  {R : Entry → Entry → Prop}

/-- Two chains with one end have the same entries, when no link leads back to the
start and a link determines the end before it and its entry. -/
theorem HashChain.forall₂_of_same_end
    (hstart : ∀ {entries last entry}, ¬link entries last entry start)
    (hstart' : ∀ {entries last entry}, ¬link' entries last entry start)
    (hlinks : ∀ {entries entries' last last' entry entry' next},
      link entries last entry next → link' entries' last' entry' next →
        last = last' ∧ R entry entry')
    {entries entries' : List Entry} {final : Hash} (hchain : HashChain start link entries final)
    (hchain' : HashChain start link' entries' final) : List.Forall₂ R entries entries' := by
  induction hchain generalizing entries' with
  | nil =>
      cases hchain' with
      | nil => exact .nil
      | snoc _ hlink => exact absurd hlink hstart'
  | snoc _ hlink ih =>
      cases hchain' with
      | nil => exact absurd hlink hstart
      | snoc hchain' hlink' =>
          obtain ⟨rfl, hentry⟩ := hlinks hlink hlink'
          exact List.rel_append (ih hchain') (.cons hentry .nil)

end SameEnd

/-- Entries that can each be replaced can be replaced together. -/
theorem exists_forall₂ {α β : Type} {R : α → β → Prop} {entries : List α}
    (hexists : ∀ entry ∈ entries, ∃ other, R entry other) :
    ∃ others, List.Forall₂ R entries others := by
  induction entries with
  | nil => exact ⟨[], .nil⟩
  | cons entry rest ih =>
      rw [List.forall_mem_cons] at hexists
      obtain ⟨other, hother⟩ := hexists.1
      obtain ⟨others, hothers⟩ := ih hexists.2
      exact ⟨other :: others, .cons hother hothers⟩

theorem exists_of_forall₂_concat {α β : Type} {R : α → β → Prop} {entries : List α}
    {entry : α} {others : List β} (hrel : List.Forall₂ R (entries ++ [entry]) others) :
    ∃ init other, others = init ++ [other] ∧ List.Forall₂ R entries init ∧ R entry other := by
  induction entries generalizing others with
  | nil =>
      cases hrel with
      | cons hhead htail =>
          cases htail
          exact ⟨[], _, rfl, .nil, hhead⟩
  | cons first rest ih =>
      cases hrel with
      | cons hhead htail =>
          obtain ⟨init, other, rfl, hinit, hother⟩ := ih htail
          exact ⟨_ :: init, other, rfl, .cons hhead hinit, hother⟩

theorem forall_mem_of_forall₂ {α β : Type} {R : α → β → Prop} {P : α → Prop} {Q : β → Prop}
    (hstep : ∀ {a b}, R a b → P a → Q b) {as : List α} {bs : List β}
    (hrel : List.Forall₂ R as bs) (hall : ∀ a ∈ as, P a) : ∀ b ∈ bs, Q b := by
  induction hrel with
  | nil => exact fun _ hmem => absurd hmem List.not_mem_nil
  | cons hhead _ ih =>
      rw [List.forall_mem_cons] at hall
      exact List.forall_mem_cons.2 ⟨hstep hhead hall.1, ih hall.2⟩

theorem filterMap_eq_of_forall₂ {α β γ : Type} {R : α → β → Prop} {f : α → Option γ}
    {g : β → Option γ} (hfg : ∀ {a b}, R a b → f a = g b) {as : List α} {bs : List β}
    (hrel : List.Forall₂ R as bs) : as.filterMap f = bs.filterMap g := by
  induction hrel with
  | nil => rfl
  | cons hab _ ih => rw [List.filterMap_cons, List.filterMap_cons, hfg hab, ih]

end GovernedRuntime.Library
