import Descent.Proofs.Braces.Commands

/-!
# Canonical trees and their texts

A list of nodes has a text. It is canonical if every node has a text of its kind and reaches as far
as it can: no text node follows another, and no letter follows a command of letters. A canonical
list can be read off its text, also if more text follows, as long as no node begins with that
(`renderAll_append_inj`).
-/

namespace Descent.Braces

variable {n m : Node} {ns ms : List Node} {back x y : List Char}

mutual

def Node.render : Node → List Char
  | .text cs => cs
  | .command name => name
  | .group children => '{' :: (Node.renderAll children ++ ['}'])

def Node.renderAll : List Node → List Char
  | [] => []
  | n :: ns => n.render ++ Node.renderAll ns

end

open Node

/-- A backslash and one character that is not an ASCII letter. -/
def IsSymbol (name : List Char) : Prop := ∃ c : Char, ¬ c.isAlpha = true ∧ name = ['\\', c]

/-- A backslash and ASCII letters, one at least. -/
def IsWord (name : List Char) : Prop :=
  ∃ letters, letters ≠ [] ∧ (∀ c ∈ letters, c.isAlpha = true) ∧ name = '\\' :: letters

/-- The second node can stand directly behind the first. -/
def Node.MayPrecede : Node → Node → Prop
  | .text _, .text _ => False
  | .command name, .text cs => ¬ (IsWord name ∧ ∃ c ∈ cs.head?, c.isAlpha = true)
  | _, _ => True

mutual

/-- The node has a text of its kind, and so have all nodes in it. -/
def Node.Canonical : Node → Prop
  | .text cs => cs ≠ [] ∧ ∀ c ∈ cs, isPlain c = true
  | .command name => IsSymbol name ∨ IsWord name
  | .group children => Node.CanonicalAll children

/-- The nodes are canonical, and each can stand directly behind the one before it. -/
def Node.CanonicalAll : List Node → Prop
  | [] => True
  | n :: ns => n.Canonical ∧ (∀ m ∈ ns.head?, n.MayPrecede m) ∧ Node.CanonicalAll ns

end

/-! ## Where nodes end -/

/-- The node reaches as far as it can in front of the text. -/
def Node.EndsBefore : Node → List Char → Prop
  | .text _, back => ∀ c ∈ back.head?, ¬ isPlain c = true
  | .command name, back => IsWord name → ∀ c ∈ back.head?, ¬ c.isAlpha = true
  | .group _, _ => True

/-- No node begins with the text. -/
inductive Blocked : List Char → Prop where
  | nil : Blocked []
  | close (rest : List Char) : Blocked ('}' :: rest)
  | lone : Blocked ['\\']

theorem endsBefore_special {c : Char} (h : ¬ isPlain c = true) (n : Node) (rest : List Char) :
    n.EndsBefore (c :: rest) := by
  cases n with
  | text =>
    rintro d ⟨⟩
    exact h
  | command =>
    rintro - d ⟨⟩
    exact fun letter => h (isPlain_of_isAlpha letter)
  | group => exact trivial

theorem Blocked.endsBefore (h : Blocked back) (n : Node) : n.EndsBefore back := by
  cases h with
  | nil =>
    cases n with
    | text => exact nofun
    | command => exact nofun
    | group => exact trivial
  | close rest => exact endsBefore_special (by decide) n rest
  | lone => exact endsBefore_special (by decide) n []

theorem command_eq_cons {name : List Char} (h : IsSymbol name ∨ IsWord name) :
    ∃ c rest, name = '\\' :: c :: rest := by
  rcases h with ⟨c, -, rfl⟩ | ⟨letters, some, -, rfl⟩
  · exact ⟨c, [], rfl⟩
  · obtain ⟨c, rest, rfl⟩ := List.exists_cons_of_ne_nil some
    exact ⟨c, rest, rfl⟩

theorem text_eq_cons {cs : List Char} (h : cs ≠ [] ∧ ∀ c ∈ cs, isPlain c = true) :
    ∃ c rest, cs = c :: rest ∧ isPlain c = true := by
  obtain ⟨c, rest, rfl⟩ := List.exists_cons_of_ne_nil h.1
  exact ⟨c, rest, rfl, h.2 c List.mem_cons_self⟩

theorem Blocked.cons {c : Char} (h : Blocked (c :: x)) : c = '}' ∨ c = '\\' ∧ x = [] := by
  cases h with
  | close => exact .inl rfl
  | lone => exact .inr ⟨rfl, rfl⟩

theorem Node.Canonical.not_blocked (h : n.Canonical) : ¬ Blocked (n.render ++ x) := by
  intro blocked
  cases n with
  | text cs =>
    obtain ⟨c, rest, rfl, plain⟩ := text_eq_cons h
    rcases blocked.cons with rfl | ⟨rfl, -⟩ <;> exact absurd plain (by decide)
  | command name =>
    obtain ⟨c, rest, rfl⟩ := command_eq_cons h
    rcases blocked.cons with e | ⟨-, e⟩
    · exact absurd e (by decide)
    · exact absurd e (List.cons_ne_nil c _)
  | group children =>
    rcases blocked.cons with e | ⟨e, -⟩ <;> exact absurd e (by decide)

theorem Node.Canonical.render_ne_nil (h : n.Canonical) : n.render ≠ [] := by
  intro empty
  apply h.not_blocked (x := [])
  rw [empty]
  exact .nil

theorem mayPrecede_iff (hm : m.Canonical) : n.MayPrecede m ↔ n.EndsBefore (m.render ++ x) := by
  cases m with
  | text cs =>
    obtain ⟨c, rest, rfl, plain⟩ := text_eq_cons hm
    cases n with
    | text => exact ⟨False.elim, fun h => h c rfl plain⟩
    | command name =>
      constructor
      · rintro h word d ⟨⟩ letter
        exact h ⟨word, c, rfl, letter⟩
      · rintro h ⟨word, d, ⟨⟩, letter⟩
        exact h word c rfl letter
    | group => exact Iff.rfl
  | command name =>
    obtain ⟨c, rest, rfl⟩ := command_eq_cons hm
    refine ⟨fun _ => endsBefore_special (by decide) n _, fun _ => ?_⟩
    cases n <;> exact trivial
  | group children =>
    refine ⟨fun _ => endsBefore_special (by decide) n _, fun _ => ?_⟩
    cases n <;> exact trivial

/-- A node reaches as far as it can in front of canonical nodes that may follow it. -/
theorem endsBefore_renderAll_iff (hns : CanonicalAll ns) (blocked : Blocked back) :
    n.EndsBefore (renderAll ns ++ back) ↔ ∀ m ∈ ns.head?, n.MayPrecede m := by
  cases ns with
  | nil => exact ⟨fun _ => nofun, fun _ => blocked.endsBefore n⟩
  | cons m ns =>
    rw [renderAll, List.append_assoc, ← mayPrecede_iff hns.1]
    constructor
    · rintro h m' ⟨⟩
      exact h
    · exact fun h => h m rfl

/-! ## Unique readability -/

theorem takeWhile_append {p : Char → Bool} {cs : List Char} (all : ∀ c ∈ cs, p c = true)
    (stop : ∀ c ∈ x.head?, ¬ p c = true) : (cs ++ x).takeWhile p = cs := by
  rw [List.takeWhile_append_of_pos all, takeWhile_eq_nil stop, List.append_nil]

/-- Two runs of a kind are the same if the texts are that begin with them. -/
theorem run_append_inj {p : Char → Bool} {cs ds : List Char} (hcs : ∀ c ∈ cs, p c = true)
    (hds : ∀ c ∈ ds, p c = true) (hx : ∀ c ∈ x.head?, ¬ p c = true)
    (hy : ∀ c ∈ y.head?, ¬ p c = true) (h : cs ++ x = ds ++ y) : cs = ds ∧ x = y := by
  have same : cs = ds := by
    rw [← takeWhile_append hcs hx, h, takeWhile_append hds hy]
  subst same
  exact ⟨rfl, List.append_cancel_left h⟩

theorem command_append_inj {name name' : List Char} (hn : IsSymbol name ∨ IsWord name)
    (hn' : IsSymbol name' ∨ IsWord name') (hx : (Node.command name).EndsBefore x)
    (hy : (Node.command name').EndsBefore y) (h : name ++ x = name' ++ y) :
    name = name' ∧ x = y := by
  rcases hn with ⟨c, symbol, rfl⟩ | word
  · rcases hn' with ⟨d, -, rfl⟩ | ⟨letters, some, all, rfl⟩
    · obtain ⟨rfl, rest⟩ := List.cons.inj (List.cons.inj h).2
      exact ⟨rfl, rest⟩
    · obtain ⟨d, rest, rfl⟩ := List.exists_cons_of_ne_nil some
      obtain ⟨rfl, -⟩ := List.cons.inj (List.cons.inj h).2
      exact absurd (all c List.mem_cons_self) symbol
  · rcases hn' with ⟨d, symbol, rfl⟩ | word'
    · obtain ⟨letters, some, all, rfl⟩ := word
      obtain ⟨c, rest, rfl⟩ := List.exists_cons_of_ne_nil some
      obtain ⟨rfl, -⟩ := List.cons.inj (List.cons.inj h).2
      exact absurd (all c List.mem_cons_self) symbol
    · have stop := hx word
      have stop' := hy word'
      obtain ⟨letters, -, all, rfl⟩ := word
      obtain ⟨letters', -, all', rfl⟩ := word'
      obtain ⟨rfl, rest⟩ := run_append_inj all all' stop stop' (List.cons.inj h).2
      exact ⟨rfl, rest⟩

mutual

/-- A canonical node that reaches as far as it can is the only one with which its text begins. -/
theorem render_append_inj : (n m : Node) → {x y : List Char} → n.Canonical → m.Canonical →
    n.EndsBefore x → m.EndsBefore y → n.render ++ x = m.render ++ y → n = m ∧ x = y
  | .text cs, .text ds, x, y, hn, hm, hx, hy, h => by
    obtain ⟨rfl, rest⟩ := run_append_inj hn.2 hm.2 hx hy h
    exact ⟨rfl, rest⟩
  | .command name, .command name', x, y, hn, hm, hx, hy, h => by
    obtain ⟨rfl, rest⟩ := command_append_inj hn hm hx hy h
    exact ⟨rfl, rest⟩
  | .group children, .group children', x, y, hn, hm, _, _, h => by
    have inside : renderAll children ++ ['}'] ++ x = renderAll children' ++ ['}'] ++ y :=
      (List.cons.inj h).2
    rw [List.append_assoc, List.append_assoc] at inside
    obtain ⟨rfl, rest⟩ :=
      renderAll_append_inj children children' hn hm (.close x) (.close y) inside
    exact ⟨rfl, (List.cons.inj rest).2⟩
  | .text cs, .command name, x, y, hn, hm, _, _, h => by
    obtain ⟨c, rest, rfl, plain⟩ := text_eq_cons hn
    obtain ⟨d, rest', rfl⟩ := command_eq_cons hm
    obtain ⟨rfl, -⟩ := List.cons.inj h
    exact absurd plain (by decide)
  | .command name, .text cs, x, y, hn, hm, _, _, h => by
    obtain ⟨c, rest, rfl, plain⟩ := text_eq_cons hm
    obtain ⟨d, rest', rfl⟩ := command_eq_cons hn
    obtain ⟨rfl, -⟩ := List.cons.inj h
    exact absurd plain (by decide)
  | .text cs, .group children, x, y, hn, _, _, _, h => by
    obtain ⟨c, rest, rfl, plain⟩ := text_eq_cons hn
    obtain ⟨rfl, -⟩ := List.cons.inj h
    exact absurd plain (by decide)
  | .group children, .text cs, x, y, _, hm, _, _, h => by
    obtain ⟨c, rest, rfl, plain⟩ := text_eq_cons hm
    obtain ⟨rfl, -⟩ := List.cons.inj h
    exact absurd plain (by decide)
  | .command name, .group children, x, y, hn, _, _, _, h => by
    obtain ⟨d, rest, rfl⟩ := command_eq_cons hn
    exact absurd (List.cons.inj h).1 (by decide)
  | .group children, .command name, x, y, _, hm, _, _, h => by
    obtain ⟨d, rest, rfl⟩ := command_eq_cons hm
    exact absurd (List.cons.inj h).1 (by decide)

/-- Canonical nodes are the only ones with which their text begins, if none begins with the rest. -/
theorem renderAll_append_inj : (ns ms : List Node) → {x y : List Char} → CanonicalAll ns →
    CanonicalAll ms → Blocked x → Blocked y → renderAll ns ++ x = renderAll ms ++ y →
    ns = ms ∧ x = y
  | [], [], x, y, _, _, _, _, h => ⟨rfl, h⟩
  | [], m :: ms, x, y, _, hms, hx, _, h => by
    rw [renderAll, List.nil_append, renderAll, List.append_assoc] at h
    exact absurd (h ▸ hx) hms.1.not_blocked
  | n :: ns, [], x, y, hns, _, _, hy, h => by
    rw [renderAll, renderAll, List.append_assoc, List.nil_append] at h
    exact absurd (h ▸ hy) hns.1.not_blocked
  | n :: ns, m :: ms, x, y, hns, hms, hx, hy, h => by
    rw [renderAll, List.append_assoc, renderAll, List.append_assoc] at h
    obtain ⟨rfl, rest⟩ := render_append_inj n m hns.1 hms.1
      ((endsBefore_renderAll_iff hns.2.2 hx).2 hns.2.1)
      ((endsBefore_renderAll_iff hms.2.2 hy).2 hms.2.1) h
    obtain ⟨rfl, tail⟩ := renderAll_append_inj ns ms hns.2.2 hms.2.2 hx hy rest
    exact ⟨rfl, tail⟩

end

end Descent.Braces
