import Descent.Proofs.Calls

/-!
# Indices do not overflow

Whatever a grammar does, setting the state included, each index that comes up in a parse lies within
the input, or the parse started with it, or the grammar installed it. Only reading adds to an index,
and it does so only where the input holds something from that index on, and takes no more than that.
So what it adds leads to an index within the input, which is a word where the length of the input is
one (`indices_confined`).
-/

namespace Descent

variable {ρ : Type}

namespace Grammar

variable {input : Input} {g : Grammar ρ} {reader : Reader}

theorem staysWithin_of_reader? (hg : g.reader? = some reader) : reader.StaysWithin := by
  cases g with
  | pattern => exact Option.some.inj hg ▸ Reader.pattern_staysWithin _ _
  | literal | satisfy | takeWhile1 =>
    exact Reader.staysWithin_of_takesFrom fun rest => takesFrom_of_reader? hg nofun
  | _ => cases hg

theorem add_le_byteLength (hg : g.reader? = some reader) {i n : Nat} {v : Value}
    (h : (input.suffix? i).bind reader.step? = some (v, n)) : i + n ≤ input.byteLength := by
  obtain ⟨rest, hr, hstep⟩ := Option.bind_eq_some_iff.1 h
  rw [← Input.add_utf8Length_of_suffix? hr]
  exact Nat.add_le_add_left (staysWithin_of_reader? hg rest v n hstep) i

variable {table : ρ → Grammar ρ} {s t : State} {v : Value}

theorem Replies.of_reader? (hg : g.reader? = some reader)
    (hr : g.Replies table input s (.success v t)) :
    ∃ n, (input.suffix? s.index).bind reader.step? = some (v, n) ∧ t = s.advance n := by
  obtain ⟨h, n, hn⟩ := replies_iff_observed.1 hr
  cases n with
  | zero => cases hn
  | succ n =>
    obtain ⟨k, hk, -⟩ := observe_succ_eq_some.1 hn
    rw [plan_of_reader? hg, Reader.plan] at hk
    split at hk
    · rename_i w n hw
      cases hk
      exact ⟨n, hw, rfl⟩
    · cases hk

/-- Each index that comes up in a parse lies within the input, or is the one that the parse started
with, or one that a grammar installed in it. Where a reader advances the index, the sum lies within
the input, so that it does not wrap around if the length of the input is a word. -/
theorem indices_confined {depth : Nat} {r : Reply Value}
    (parse : (g.parserWith table depth input s).reply? = some r) :
    ∃ h, g.Observed table input s r h ∧
      (∀ x ∈ h, x.Confined fun i =>
        i ≤ input.byteLength ∨ i = s.index ∨ ∃ p u, .called p u ∈ h ∧ p.Installs i) ∧
      ∀ p u v t, .returned p u (.success v t) ∈ h → p.reader? ≠ none →
        ∃ n, t = u.advance n ∧ u.index + n ≤ input.byteLength ∧
          (input.byteLength ≤ maxWord → (u.index + n) % (maxWord + 1) = u.index + n) := by
  obtain ⟨h, ho⟩ := replies_iff_observed.1 ⟨depth, parse⟩
  refine ⟨h, ho, (ho.confined (fun x hx => ?_) (.inr (.inl rfl))).2, fun p u v t hx hp => ?_⟩
  · cases x with
    | called p u =>
      refine fun _ => ⟨fun i hi => .inr (.inr ⟨p, u, hx, hi⟩), fun reader hp v n hn => .inl ?_⟩
      exact add_le_byteLength hp hn
    | _ => exact trivial
  · obtain ⟨reader, hp⟩ := Option.ne_none_iff_exists'.1 hp
    obtain ⟨n, hn, rfl⟩ := (run_of_mem ho hx).2.of_reader? hp
    have within : u.index + n ≤ input.byteLength := add_le_byteLength hp hn
    refine ⟨n, rfl, within, fun fits => Nat.mod_eq_of_lt ?_⟩
    exact Nat.lt_succ_of_le (Nat.le_trans within fits)

/-- Goes back to the start of the input if there is no letter. -/
def rewinding : Grammar Empty := .or (.literal "a") (.seqRight (.change (.seek 0)) (.literal "é"))

/-- The parse starts past the end of the input, at the greatest word, and ends within the input. -/
theorem indices_confined_rewinding :
    let input := Input.ofChars ['é']
    let s : State := ⟨maxWord, [], .empty⟩
    let r : Reply Value := .success (.str "é") ⟨2, [], .empty⟩
    (rewinding.parserWith Empty.elim 0 input s).reply? = some r ∧
      ∃ h, rewinding.Observed Empty.elim input s r h ∧
        .returned (.literal "é") ⟨0, ["a"], .empty⟩ r ∈ h ∧
        ∀ x ∈ h, x.Confined fun i =>
          i ≤ 2 ∨ i = maxWord ∨ ∃ p u, .called p u ∈ h ∧ p.Installs i := by
  intro input s r
  have parse : (rewinding.parserWith Empty.elim 0 input s).reply? = some r := rfl
  obtain ⟨h, ho, confined, -⟩ := indices_confined parse
  refine ⟨parse, h, ho, ?_, confined⟩
  obtain ⟨-, rfl⟩ := ho.unique ⟨4, rfl⟩
  exact List.mem_of_getElem? (i := 8) rfl

end Grammar

end Descent
