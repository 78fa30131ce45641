import Mathlib.Data.List.Forall2
import Descent.Proofs.Commitment
import Descent.Proofs.Ending

/-!
# Taking failures back in more places

Where a grammar takes no failure back, wrapping parts of it in `attempt` or in a label does not
change a parse that succeeds. In such a parse no failure strays, for it would stand; so all that the
new wrappers ever take back are failures that stayed where they started. The plans of both grammars
go the same way (`Plan.Mimics`), with labels that differ.

The context may differ too, in one place. A repetition goes on with the context of the failure that
ends it, and a wrapper puts the context of its start back. `LeavesContext` says that a parse has no
such place.
-/

namespace Descent

variable {ρ : Type}

namespace Grammar

/-- The grammar yields its state, or a part of it, as a value. -/
def ReadsState : Grammar ρ → Prop
  | getState | lookup _ => True
  | _ => False

def Repeats : Grammar ρ → Prop
  | times .. => True
  | _ => False

/-- The second grammar is the first in which some parts, all of them in `W`, are wrapped to take
their failures back. -/
inductive Wrapped (W : Grammar ρ → Prop) : Grammar ρ → Grammar ρ → Prop
  | wrap (label? : Option String) {p p' : Grammar ρ} (hp : W p) (h : Wrapped W p p') :
    Wrapped W p (attempt label? p')
  | leaf {g : Grammar ρ} (h : ∀ p, ¬ Part p g) : Wrapped W g g
  | restoring {p p' : Grammar ρ} (h : Wrapped W p p') : Wrapped W (restoring p) (restoring p')
  | map (f : Value → Value) {p p' : Grammar ρ} (h : Wrapped W p p') :
    Wrapped W (.map f p) (.map f p')
  | chain {p p' : Grammar ρ} {next next' : Value → Grammar ρ} (h : Wrapped W p p')
    (hnext : ∀ v, Wrapped W (next v) (next' v)) : Wrapped W (chain p next) (chain p' next')
  | seqRight {p p' q q' : Grammar ρ} (hp : Wrapped W p p') (hq : Wrapped W q q') :
    Wrapped W (seqRight p q) (seqRight p' q')
  | seqLeft {p p' q q' : Grammar ρ} (hp : Wrapped W p p') (hq : Wrapped W q q') :
    Wrapped W (seqLeft p q) (seqLeft p' q')
  | between {l l' p p' r r' : Grammar ρ} (hl : Wrapped W l l') (hp : Wrapped W p p')
    (hr : Wrapped W r r') : Wrapped W (between l p r) (between l' p' r')
  | seq {ps ps' : List (Grammar ρ)} (h : List.Forall₂ (Wrapped W) ps ps') :
    Wrapped W (.seq ps) (.seq ps')
  | or {p p' q q' : Grammar ρ} (hp : Wrapped W p p') (hq : Wrapped W q q') :
    Wrapped W (or p q) (or p' q')
  | alt {ps ps' : List (Grammar ρ)} (h : List.Forall₂ (Wrapped W) ps ps') :
    Wrapped W (alt ps) (alt ps')
  | attempt (label? : Option String) {p p' : Grammar ρ} (h : Wrapped W p p') :
    Wrapped W (attempt label? p) (attempt label? p')
  | maybe {p p' : Grammar ρ} (h : Wrapped W p p') : Wrapped W (maybe p) (maybe p')
  | lookahead {p p' : Grammar ρ} (h : Wrapped W p p') : Wrapped W (lookahead p) (lookahead p')
  | not {p p' : Grammar ρ} (h : Wrapped W p p') : Wrapped W (not p) (not p')
  | times (min : Nat) (max : Option Nat) {p p' : Grammar ρ} (h : Wrapped W p p') :
    Wrapped W (times min max p) (times min max p')
  | sepBy (nonEmpty : Bool) {p p' q q' : Grammar ρ} (hp : Wrapped W p p') (hq : Wrapped W q q') :
    Wrapped W (sepBy nonEmpty p q) (sepBy nonEmpty p' q')
  | traced (name : String) {p p' : Grammar ρ} (h : Wrapped W p p') :
    Wrapped W (traced name p) (traced name p')

end Grammar

/-! ## Failures that have changed the context -/

/-- The history ends with a failure, handed on from a grammar in `W` that had started with another
context. -/
def FailsChanged (W : Grammar ρ → Prop) (x : State) (h : List (Occurrence ρ)) : Prop :=
  ∃ q u k, W q ∧ u.context ≠ x.context ∧ .returned q u (.failure x) :: k <:+ h ∧
    ∀ y ∈ k, y.HandsOn x

/-- No repetition goes on from a failure of a grammar in `W` that had changed the context. -/
def LeavesContext (W : Grammar ρ → Prop) (h : List (Occurrence ρ)) : Prop :=
  ∀ l g s v x, g.Repeats → l ++ [.returned g s (.success v x)] <:+: h → ¬ FailsChanged W x l

variable {W : Grammar ρ → Prop} {x : State} {h k : List (Occurrence ρ)}

theorem FailsChanged.append (hc : FailsChanged W x h) (hk : ∀ y ∈ k, y.HandsOn x) :
    FailsChanged W x (h ++ k) := by
  obtain ⟨q, u, l, hq, changed, ⟨front, rfl⟩, hl⟩ := hc
  exact ⟨q, u, l ++ k, hq, changed, ⟨front, by simp⟩, List.forall_mem_append.2 ⟨hl, hk⟩⟩

theorem FailsChanged.prepend (hc : FailsChanged W x k) (h : List (Occurrence ρ)) :
    FailsChanged W x (h ++ k) := by
  obtain ⟨q, u, l, hq, changed, hl, handsOn⟩ := hc
  exact ⟨q, u, l, hq, changed, hl.trans (List.suffix_append h k), handsOn⟩

theorem LeavesContext.of_append (hc : LeavesContext W (h ++ k)) :
    LeavesContext W h ∧ LeavesContext W k :=
  ⟨fun l g s v x hg hl => hc l g s v x hg (hl.trans (List.prefix_append h k).isInfix),
    fun l g s v x hg hl => hc l g s v x hg (hl.trans (List.suffix_append h k).isInfix)⟩

/-- It is enough that every failure of a grammar in `W` has the context that the grammar started
with. -/
theorem leavesContext_of_failures
    (hc : ∀ q u x, W q → .returned q u (.failure x) ∈ h → u.context = x.context) :
    LeavesContext W h := by
  rintro l g s v x - hl ⟨q, u, k, hq, changed, hk, -⟩
  have hx : .returned q u (.failure x) ∈ l := hk.subset List.mem_cons_self
  exact changed (hc q u x hq (hl.subset (List.mem_append_left _ hx)))

/-! ## States of the two parses -/

/-- The states have the same index, and if the condition holds, the same context. -/
structure State.AlikeIf (c : Prop) (s t : State) : Prop where
  index : t.index = s.index
  context : c → t.context = s.context

namespace State.AlikeIf

variable {c d : Prop} {s t u w : State}

theorem refl (s : State) : s.AlikeIf c s := ⟨rfl, fun _ => rfl⟩

theorem mono (h : s.AlikeIf c t) (hd : d → c) : s.AlikeIf d t :=
  ⟨h.index, fun hc => h.context (hd hc)⟩

theorem and_right (h : s.AlikeIf c t) : s.AlikeIf (c ∧ d) t := h.mono And.left

theorem index_eq_iff (h : s.AlikeIf c t) (h' : u.AlikeIf d w) :
    s.index = u.index ↔ t.index = w.index := by
  rw [h.index, h'.index]

theorem advance (h : s.AlikeIf c t) (n : Nat) : (s.advance n).AlikeIf c (t.advance n) :=
  ⟨congrArg (· + n) h.index, h.context⟩

theorem expecting (h : s.AlikeIf c t) (l m : String) : (s.expecting l).AlikeIf c (t.expecting m) :=
  ⟨h.index, h.context⟩

theorem withExpected (h : s.AlikeIf c t) (ls ms : List String) :
    (s.withExpected ls).AlikeIf c (t.withExpected ms) := ⟨h.index, h.context⟩

theorem apply (h : s.AlikeIf c t) (change : Change) :
    (s.apply change).AlikeIf c (t.apply change) := by
  cases change with
  | put key v => exact ⟨h.index, fun hc => congrArg (·.insert key v) (h.context hc)⟩
  | drop key => exact ⟨h.index, fun hc => congrArg (·.erase key) (h.context hc)⟩
  | seek n => exact ⟨rfl, h.context⟩

end State.AlikeIf

/-- The replies are of the same kind, with the same value and index. Their contexts are the same if
`c` holds, but for the context of a failure that has changed; a success may come out of one only
where that is `excused`. -/
inductive Reply.AlikeIf (c excused : Prop) (changed : State → Prop) :
    Reply Value → Reply Value → Prop
  | success (v : Value) {t t' : State} (h : t.AlikeIf (c ∧ ¬ (excused ∧ changed t)) t') :
    AlikeIf c excused changed (.success v t) (.success v t')
  | failure {t t' : State} (h : t.AlikeIf (c ∧ ¬ changed t) t') :
    AlikeIf c excused changed (.failure t) (.failure t')
  | stalled (i : Nat) : AlikeIf c excused changed (.stalled i) (.stalled i)

/-! ## Plans of the two grammars -/

/-- The second plan does as the first, with grammars in which parts are wrapped. Of the failure that
an invocation ends with it is only known that the contexts are the same unless it has `changed`, and
a plan may succeed with the state of such a failure only where that is `excused`. -/
inductive Plan.Mimics (W : Grammar ρ → Prop) (c excused : Prop) :
    (State → Prop) → Plan ρ → Plan ρ → Prop
  | succeed {changed : State → Prop} (v : Value) {t t' : State}
    (h : t.AlikeIf (c ∧ ¬ (excused ∧ changed t)) t') :
    Mimics W c excused changed (.succeed v t) (.succeed v t')
  | fail {changed : State → Prop} {t t' : State} (h : t.AlikeIf (c ∧ ¬ changed t) t') :
    Mimics W c excused changed (.fail t) (.fail t')
  | invoke {changed : State → Prop} {g g' : Grammar ρ} (hg : g.Wrapped W g') {u w : State}
    (hs : u.AlikeIf c w) {onSuccess onSuccess' : Value → State → Plan ρ}
    {onFailure onFailure' : State → Plan ρ}
    (hsucceed : ∀ changed v x y, x.AlikeIf c y →
      Mimics W c excused changed (onSuccess v x) (onSuccess' v y))
    (hfail : ∀ changed x y, x.AlikeIf (c ∧ ¬ changed x) y →
      Mimics W c excused changed (onFailure x) (onFailure' y)) :
    Mimics W c excused changed (.invoke g u onSuccess onFailure)
      (.invoke g' w onSuccess' onFailure')
  | round {changed : State → Prop} (start stop : Nat) {p p' : Plan ρ}
    (h : ∀ changed, Mimics W c excused changed p p') :
    Mimics W c excused changed (.round start stop p) (.round start stop p')
  | note {changed : State → Prop} (e e' : Event) {p p' : Plan ρ}
    (h : Mimics W c excused changed p p') :
    Mimics W c excused changed (.note e p) (.note e' p')

namespace Plan.Mimics

variable {c excused : Prop} {changed : State → Prop} {s t : State}

theorem branch {d d' : Prop} [Decidable d] [Decidable d'] (hd : d ↔ d') {p p' q q' : Plan ρ}
    (hp : Mimics W c excused changed p p') (hq : Mimics W c excused changed q q') :
    Mimics W c excused changed (if d then p else q) (if d' then p' else q') := by
  by_cases h : d
  · rw [if_pos h, if_pos (hd.1 h)]
    exact hp
  · rw [if_neg h, if_neg (mt hd.2 h)]
    exact hq

theorem recover {start start' failed failed' : State} {next next' : State → Plan ρ}
    {committed committed' : Plan ρ} (hs : start.AlikeIf c start')
    (hf : failed.AlikeIf (c ∧ ¬ changed failed) failed')
    (hn : ∀ x y, x.AlikeIf c y → Mimics W c excused changed (next x) (next' y))
    (hc : Mimics W c excused changed committed committed') :
    Mimics W c excused changed (Plan.recover start failed next committed)
      (Plan.recover start' failed' next' committed') :=
  branch (hf.index_eq_iff hs) (hn _ _ (hs.withExpected ..)) hc

/-- An invocation whose failures are all passed on. -/
theorem run {g g' : Grammar ρ} (hg : g.Wrapped W g') (hs : s.AlikeIf c t)
    {onSuccess onSuccess' : Value → State → Plan ρ}
    (hsucceed : ∀ changed v x y, x.AlikeIf c y →
      Mimics W c excused changed (onSuccess v x) (onSuccess' v y)) :
    Mimics W c excused changed (.invoke g s onSuccess .fail) (.invoke g' t onSuccess' .fail) :=
  .invoke hg hs hsucceed fun _ _ _ hx => .fail hx

theorem last {g g' : Grammar ρ} (hg : g.Wrapped W g') (hs : s.AlikeIf c t) (f : Value → Value) :
    Mimics W c excused changed (.invoke g s (fun v x => .succeed (f v) x) .fail)
      (.invoke g' t (fun v x => .succeed (f v) x) .fail) :=
  run hg hs fun _ v _ _ hx => .succeed (f v) hx.and_right

theorem read (reader : Reader) (input : Input) (hs : s.AlikeIf c t) :
    Mimics W c excused changed (reader.plan input s) (reader.plan input t) := by
  unfold Reader.plan
  rw [hs.index]
  rcases (input.suffix? s.index).bind reader.step? with _ | ⟨v, n⟩
  · exact .fail (hs.expecting ..).and_right
  · exact .succeed v (hs.advance n).and_right

theorem sequence {ps ps' : List (Grammar ρ)} (hps : List.Forall₂ (Grammar.Wrapped W) ps ps')
    (hs : s.AlikeIf c t) {done done' : List Value → State → Plan ρ}
    (hd : ∀ changed vs x y, x.AlikeIf c y →
      Mimics W c excused changed (done vs x) (done' vs y)) :
    Mimics W c excused changed (Plan.sequence ps s done) (Plan.sequence ps' t done') := by
  induction hps generalizing changed s t done done' with
  | nil => exact hd changed [] s t hs
  | cons hp _ ih =>
    refine run hp hs fun changed v x y hx => ?_
    exact ih hx fun changed vs => hd changed (v :: vs)

theorem alternatives {ps ps' : List (Grammar ρ)} (hps : List.Forall₂ (Grammar.Wrapped W) ps ps')
    {start start' : State} {i : Nat} (hstart : start.AlikeIf c start') (hs : s.AlikeIf c t) :
    Mimics W c excused changed (Plan.alternatives start i ps s)
      (Plan.alternatives start' i ps' t) := by
  induction hps generalizing changed i s t with
  | nil => exact .fail hs.and_right
  | cons hp _ ih =>
    refine .invoke hp hs (fun _ v _ _ hx => .succeed v hx.and_right) fun changed x y hx => ?_
    exact recover hstart hx (fun _ _ hu => .note _ _ (ih hu)) (.note _ _ (.fail hx))

/-- A repetition goes on with the failure that ends it, whether it has changed or not. -/
theorem rounds {p p' : Grammar ρ} (hp : p.Wrapped W p') {n : Nat} (hs : s.AlikeIf c t)
    {done done' : List Value → State → Plan ρ}
    (hd : ∀ changed vs x y, x.AlikeIf (c ∧ ¬ changed x) y →
      Mimics W c excused changed (done vs x) (done' vs y)) :
    Mimics W c excused changed (Plan.rounds p n s done) (Plan.rounds p' n t done') := by
  induction n generalizing changed s t done done' with
  | zero => exact hd changed [] s t hs.and_right
  | succ n ih =>
    refine .invoke hp hs (fun _ v x y hx => ?_) fun changed x y hx => ?_
    · rw [hs.index, hx.index]
      exact .round _ _ fun changed => ih hx fun changed vs => hd changed (v :: vs)
    · exact branch (hx.index_eq_iff hs) (hd changed [] x y hx) (.fail hx)

theorem separatedRounds {p p' sep sep' : Grammar ρ} (hp : p.Wrapped W p')
    (hsep : sep.Wrapped W sep') {n : Nat} (hs : s.AlikeIf c t)
    {done done' : List Value → State → Plan ρ}
    (hd : ∀ changed vs x y, x.AlikeIf c y →
      Mimics W c excused changed (done vs x) (done' vs y)) :
    Mimics W c excused changed (Plan.separatedRounds p sep n s done)
      (Plan.separatedRounds p' sep' n t done') := by
  induction n generalizing changed s t done done' with
  | zero => exact hd changed [] s t hs
  | succ n ih =>
    have stop : ∀ changed x y, x.AlikeIf (c ∧ ¬ changed x) y →
        Mimics W c excused changed (Plan.recover s x (done []) (.fail x))
          (Plan.recover t y (done' []) (.fail y)) :=
      fun changed x y hx => recover hs hx (hd changed []) (.fail hx)
    refine .invoke hsep hs (fun _ _ x y hx => ?_) stop
    refine .invoke hp hx (fun _ v u w hu => ?_) stop
    rw [hs.index, hu.index]
    exact .round _ _ fun changed => ih hu fun changed vs => hd changed (v :: vs)

end Plan.Mimics

namespace Grammar

variable {table table' : ρ → Grammar ρ} {c : Prop} {s t : State}

/-- The outermost layer of the grammar is wrapped, or its plan does as before. -/
theorem Wrapped.wrapped_or_mimics (htable : ∀ rule, Wrapped W (table rule) (table' rule))
    {g g' : Grammar ρ} (hw : Wrapped W g g') (blind : ¬ g.ReadsState) (hs : s.AlikeIf c t)
    (input : Input) :
    (∃ label? p', W g ∧ Wrapped W g p' ∧ g' = .attempt label? p') ∨
      Plan.Mimics W c g.Repeats (fun _ => False) (g.plan table input s)
        (g'.plan table' input t) := by
  cases hw with
  | wrap label? hp h => exact .inl ⟨label?, _, hp, h, rfl⟩
  | leaf h =>
    refine .inr ?_
    cases g with
    | pure v => exact .succeed v hs.and_right
    | fail => exact .fail hs.and_right
    | eof =>
      refine .branch (by rw [hs.index]) (.succeed .null hs.and_right) ?_
      exact .fail (hs.expecting ..).and_right
    | literal | satisfy | takeWhile1 | pattern => exact .read _ _ hs
    | getState | lookup => exact absurd trivial blind
    | setState new => exact .succeed .null (.refl new)
    | change c => exact .succeed .null (hs.apply c).and_right
    | ref rule => exact .last (htable rule) hs id
    | seq ps =>
      obtain rfl : ps = [] := List.eq_nil_iff_forall_not_mem.2 h
      exact .succeed (.arr []) hs.and_right
    | alt ps =>
      obtain rfl : ps = [] := List.eq_nil_iff_forall_not_mem.2 h
      exact .fail hs.and_right
    | restoring | map | attempt | maybe | lookahead | not | times | traced => exact absurd rfl (h _)
    | chain | seqRight | seqLeft | between | or | sepBy => exact absurd (.inl rfl) (h _)
  | restoring h => exact .inr (.run h hs fun _ v _ _ _ => .succeed v hs.and_right)
  | map f h => exact .inr (.last h hs f)
  | traced name h => exact .inr (.last h hs id)
  | chain h hnext => exact .inr (.run h hs fun _ v _ _ hx => .last (hnext v) hx id)
  | seqRight hp hq => exact .inr (.run hp hs fun _ _ _ _ hx => .last hq hx id)
  | seqLeft hp hq => exact .inr (.run hp hs fun _ v _ _ hx => .last hq hx fun _ => v)
  | between hl hp hr =>
    refine .inr (.run hl hs fun _ _ _ _ hx => .run hp hx fun _ v _ _ hy => ?_)
    exact .last hr hy fun _ => v
  | seq h => exact .inr (.sequence h hs fun _ vs _ _ hx => .succeed (.arr vs) hx.and_right)
  | or hp hq =>
    refine .inr (.invoke hp hs (fun _ v _ _ hx => .succeed v hx.and_right) fun changed x y hx => ?_)
    exact .recover hs hx (fun _ _ hu => .note _ _ (.last hq hu id)) (.note _ _ (.fail hx))
  | alt h => exact .inr (.alternatives h hs hs)
  | attempt label? h =>
    refine .inr (.invoke h hs (fun _ v _ _ hx => .succeed v hx.and_right) fun changed x y hx => ?_)
    have rewound : ∀ {u w : State}, u.AlikeIf c w → Plan.Mimics W c False changed
        (if x.index = s.index then .fail u else .note (.rewound s.index x.index) (.fail u))
        (if y.index = t.index then .fail w else .note (.rewound t.index y.index) (.fail w)) :=
      fun hu => .branch (hx.index_eq_iff hs) (.fail hu.and_right) (.note _ _ (.fail hu.and_right))
    cases label? with
    | none => exact rewound hs
    | some label => exact rewound (hs.expecting label label)
  | maybe h =>
    refine .inr (.invoke h hs (fun _ v _ _ hx => .succeed _ hx.and_right) fun changed x y hx => ?_)
    exact .recover hs hx (fun _ _ hu => .succeed _ hu.and_right) (.fail hx)
  | lookahead h =>
    refine .inr (.invoke h hs (fun _ v _ _ _ => .succeed v hs.and_right) fun changed x y hx => ?_)
    exact .branch (hx.index_eq_iff hs) (.fail (hs.withExpected ..).and_right) (.fail hs.and_right)
  | not h =>
    refine .inr (.invoke h hs (fun _ _ _ _ _ => .fail hs.and_right) fun changed x y hx => ?_)
    exact .branch (hx.index_eq_iff hs) (.succeed .null hs.and_right) (.fail hx)
  | times min max h =>
    refine .inr (.rounds h hs fun changed vs x y hx => ?_)
    refine .branch Iff.rfl (.fail hx) (.succeed (.arr vs) (hx.mono fun hc => ⟨hc.1, ?_⟩))
    exact fun hx => hc.2 ⟨trivial, hx⟩
  | sepBy nonEmpty hp hq =>
    refine .inr (.invoke hp hs (fun _ v x y hx => ?_) fun changed x y hx => ?_)
    · exact .separatedRounds hp hq hx fun _ vs _ _ hu => .succeed (.arr (v :: vs)) hu.and_right
    · cases nonEmpty with
      | true => exact .fail hx
      | false => exact .recover hs hx (fun _ _ hu => .succeed (.arr []) hu.and_right) (.fail hx)

end Grammar

/-! ## Whole parses -/

theorem Steady.of_append (hk : Steady (h ++ k)) : Steady h ∧ Steady k :=
  List.forall_mem_append.1 hk

/-- If all that the first plan invokes is replied to alike in the second parse, the second plan ends
alike. -/
theorem Plan.Mimics.follow {table' : ρ → Grammar ρ} {input : Input} {c excused : Prop}
    {P : Grammar ρ → Prop}
    {call : Grammar ρ → State → Option (Reply Value × List (Occurrence ρ))}
    (hcall : ∀ g g' u w r h, P g → g.Wrapped W g' → u.AlikeIf c w → call g u = some (r, h) →
      Steady h → (c → LeavesContext W h) →
        ∃ r', g'.Replies table' input w r' ∧ r.AlikeIf c False (FailsChanged W · h) r')
    {changed : State → Prop} {l : List (Occurrence ρ)}
    (hchanged : ∀ x, changed x → FailsChanged W x l) {p p' : Plan ρ}
    (hm : Mimics W c excused changed p p') (hp : p.Only P) {r : Reply Value}
    (hf : p.follow (fun x => [x]) call = some (r, k)) (steady : Steady k)
    (leaves : c → LeavesContext W k) :
    ∃ r', p'.Ends table' input r' ∧ r.AlikeIf c excused (FailsChanged W · (l ++ k)) r' := by
  induction hm generalizing l k r with
  | succeed v ht =>
    cases hf
    refine ⟨_, .succeed v _, .success v (ht.mono fun hc => ⟨hc.1, fun e => hc.2 ⟨e.1, ?_⟩⟩)⟩
    simpa using hchanged _ e.2
  | fail ht =>
    cases hf
    refine ⟨_, .fail _, .failure (ht.mono fun hc => ⟨hc.1, fun e => hc.2 ?_⟩)⟩
    simpa using hchanged _ e
  | invoke hg hs _ _ ihs ihf =>
    obtain ⟨hP, hps, hpf⟩ := hp
    rcases Plan.follow_invoke_eq_some.1 hf with
      ⟨v, t, m, k, hc, hk, rfl⟩ | ⟨t, m, k, hc, hk, rfl⟩ | ⟨i, hc, rfl⟩
    · obtain ⟨r', hr', rel⟩ := hcall _ _ _ _ _ _ hP hg hs hc steady.of_append.1
        fun hc => (leaves hc).of_append.1
      cases rel with
      | success v hx =>
        have hx := hx.mono fun hc => ⟨hc, fun e => e.1⟩
        obtain ⟨r', ends, rel⟩ := ihs (fun _ => False) v t _ hx (l := l ++ m) nofun (hps v t) hk
          steady.of_append.2 fun hc => (leaves hc).of_append.2
        rw [List.append_assoc] at rel
        exact ⟨r', .invoke_success hr' ends, rel⟩
    · obtain ⟨r', hr', rel⟩ := hcall _ _ _ _ _ _ hP hg hs hc steady.of_append.1
        fun hc => (leaves hc).of_append.1
      cases rel with
      | failure hx =>
        obtain ⟨r', ends, rel⟩ := ihf (FailsChanged W · m) t _ hx (l := l ++ m)
          (fun _ e => e.prepend l) (hpf t) hk steady.of_append.2 fun hc => (leaves hc).of_append.2
        rw [List.append_assoc] at rel
        exact ⟨r', .invoke_failure hr' ends, rel⟩
    · obtain ⟨r', hr', rel⟩ := hcall _ _ _ _ _ _ hP hg hs hc steady leaves
      cases rel with
      | stalled => exact ⟨_, .invoke_stalled hr', .stalled i⟩
  | round start stop _ ih =>
    rcases Plan.follow_round_eq_some.1 hf with ⟨moved, k, hk, rfl⟩ | ⟨stays, rfl, rfl⟩
    · obtain ⟨r', ends, rel⟩ := ih (fun _ => False) (l := l ++ [.round start stop]) nofun hp hk
        steady.of_append.2 fun hc => (leaves hc).of_append.2
      rw [List.append_assoc] at rel
      exact ⟨r', .round moved ends, rel⟩
    · exact ⟨_, .round_stalled stays, .stalled start⟩
  | note e e' _ ih =>
    obtain ⟨k, hk, rfl⟩ := prepend_eq_some.1 hf
    have noted : ∀ x, ∀ y ∈ [(.noted e : Occurrence ρ)], y.HandsOn x :=
      fun x => List.forall_mem_singleton.2 trivial
    obtain ⟨r', ends, rel⟩ := ih (l := l ++ [.noted e])
      (fun x hx => (hchanged x hx).append (noted x)) hp hk steady.of_append.2
      fun hc => (leaves hc).of_append.2
    rw [List.append_assoc] at rel
    exact ⟨r', .note e' ends, rel⟩

theorem Reply.AlikeIf.returned {c : Prop} {g : Grammar ρ} {s : State} {r r' : Reply Value}
    (rel : r.AlikeIf c g.Repeats (FailsChanged W · h) r')
    (leaves : c → LeavesContext W (h ++ [.returned g s r])) :
    r.AlikeIf c False (FailsChanged W · (h ++ [.returned g s r])) r' := by
  cases rel with
  | success v ht =>
    refine .success v (ht.mono fun hc => ⟨hc.1, fun e => ?_⟩)
    exact leaves hc.1 h g s v _ e.1 List.infix_rfl e.2
  | failure ht =>
    refine .failure (ht.mono fun hc => ⟨hc.1, fun e => hc.2 (e.append ?_)⟩)
    exact List.forall_mem_singleton.2 rfl
  | stalled i => exact .stalled i

/-- A failure that stayed where its run started is taken back to there, with the context of the
start, which is another one only if the failure has changed. -/
theorem Reply.AlikeIf.attempt {table' : ρ → Grammar ρ} {input : Input} {c : Prop}
    {label? : Option String} {g p' : Grammar ρ} {s t : State} {r r' : Reply Value} (hg : W g)
    (hs : s.AlikeIf c t) (steady : Steady (h ++ [.returned g s r]))
    (hr' : p'.Replies table' input t r')
    (rel : r.AlikeIf c False (FailsChanged W · (h ++ [.returned g s r])) r') :
    ∃ r', (Grammar.attempt label? p').Replies table' input t r' ∧
      r.AlikeIf c False (FailsChanged W · (h ++ [.returned g s r])) r' := by
  cases rel with
  | success v hx =>
    exact ⟨_, Plan.Ends.replies (.invoke_success hr' (.succeed v _)), .success v hx⟩
  | @failure x y hx =>
    have stayed : x.index = s.index := by
      by_contra moved
      exact steady _ (List.mem_append_right h (List.mem_singleton_self _)) x ⟨rfl, moved⟩
    have unchanged : ¬ FailsChanged W x (h ++ [.returned g s (.failure x)]) →
        s.context = x.context := by
      intro hx
      by_contra changed
      exact hx ⟨g, s, [], hg, changed, List.suffix_append h _, fun y hy => by cases hy⟩
    have rewound : ∀ z : State, z.index = t.index → z.context = t.context →
        x.AlikeIf (c ∧ ¬ FailsChanged W x (h ++ [.returned g s (.failure x)])) z := by
      intro z index context
      refine ⟨(index.trans hs.index).trans stayed.symm, fun hc => ?_⟩
      exact (context.trans (hs.context hc.1)).trans (unchanged hc.2)
    have same : y.index = t.index := hx.index.trans (stayed.trans hs.index.symm)
    cases label? with
    | none =>
      refine ⟨_, Plan.Ends.replies (.invoke_failure hr' ?_), .failure (rewound t rfl rfl)⟩
      rw [if_pos same]
      exact .fail t
    | some label =>
      have back := rewound (t.expecting label) rfl rfl
      refine ⟨_, Plan.Ends.replies (.invoke_failure hr' ?_), .failure back⟩
      rw [if_pos same]
      exact .fail _
  | stalled i => exact ⟨_, Plan.Ends.replies (.invoke_stalled hr'), .stalled i⟩

namespace Grammar

variable {table table' : ρ → Grammar ρ} {input : Input} {c : Prop} {g g' : Grammar ρ}
  {s t : State} {r : Reply Value}

/-- Where no failure strays, a grammar with wrapped parts replies alike, from any state that
differs in its labels. -/
theorem alike_of_observe (htable : ∀ rule, Wrapped W (table rule) (table' rule))
    (rules : ∀ rule, (table rule).Everywhere fun p => ¬ p.ReadsState) {n : Nat}
    (hw : Wrapped W g g') (blind : g.Everywhere fun p => ¬ p.ReadsState) (hs : s.AlikeIf c t)
    (ho : observe table input n g s = some (r, h)) (steady : Steady h)
    (leaves : c → LeavesContext W h) :
    ∃ r', g'.Replies table' input t r' ∧ r.AlikeIf c False (FailsChanged W · h) r' := by
  induction n generalizing g g' s t r h with
  | zero => cases ho
  | succ n ih =>
    obtain ⟨k, hk, rfl⟩ := observe_succ_eq_some.1 ho
    -- a part may be wrapped several times over, before its plan comes to bear
    induction g' using wellFounded_part.induction with
    | _ g' inner =>
      rcases hw.wrapped_or_mimics htable blind.here hs input with
        ⟨label?, p', hg, hp', rfl⟩ | mimics
      · obtain ⟨r', hr', rel⟩ := inner p' rfl hp'
        exact rel.attempt hg hs steady hr'
      · have parts : (g.plan table input s).Only (InvokedBy table g) := plan_only ..
        obtain ⟨r', ends, rel⟩ := mimics.follow
          (fun _ _ _ _ _ _ hp hw hs hc => ih hw (blind.invoked rules hp) hs hc)
          (l := [.called g s]) nofun parts hk (List.forall_mem_cons.1 steady.of_append.1).2
          fun hc => (LeavesContext.of_append (h := [.called g s]) (leaves hc).of_append.1).2
        exact ⟨r', ends.replies, rel.returned leaves⟩

/-- Where a grammar takes no failure back and its state is not read, wrapping parts of it and of the
rules to take failures back leaves a success with the same value and index. The context is the same
too, if no repetition went on from a failure of a wrapped part that had changed it. -/
theorem wrapped_succeeds (htable : ∀ rule, Wrapped W (table rule) (table' rule))
    (hg : Wrapped W g g')
    (rules : ∀ rule, (table rule).Everywhere fun p => ¬ p.TakesBack ∧ ¬ p.ReadsState)
    (here : g.Everywhere fun p => ¬ p.TakesBack ∧ ¬ p.ReadsState)
    (keeps : g.KeepsIndex table input s) {v : Value}
    (parse : g.Replies table input s (.success v t)) :
    ∃ h, g.Observed table input s (.success v t) h ∧
      ∃ t', g'.Replies table' input s (.success v t') ∧ t'.index = t.index ∧
        (LeavesContext W h → t'.context = t.context) := by
  obtain ⟨h, ho⟩ := replies_iff_observed.1 parse
  have committed := ho.committed (fun rule => (rules rule).imp fun _ hp => hp.1)
    (here.imp fun _ hp => hp.1) (keeps _ h ho)
  obtain ⟨n, hn⟩ := ho
  obtain ⟨r', hr', rel⟩ := alike_of_observe htable
    (fun rule => (rules rule).imp fun _ hp => hp.2) hg (here.imp fun _ hp => hp.2) (.refl s) hn
    (committed.steady nofun) id
  cases rel with
  | success v ht => exact ⟨h, ⟨n, hn⟩, _, hr', ht.index, fun hc => ht.context ⟨hc, fun e => e.1⟩⟩

/-- A letter `a`, which the context then holds. -/
def letter : Grammar Unit := .seqRight (.literal "a") (.change (.put "a" .null))

/-- A repetition of letters keeps what they have put into the context when they get a label: the
letter that is missing in the end puts nothing there. -/
theorem wrapped_succeeds_letter :
    let input := Input.ofChars ['a', 'b']
    let context : Fields Value := .ofList [("a", .null)]
    let g : Grammar Unit := .ref ()
    g.Replies (fun _ => .many letter) input .start
        (.success (.arr [.null]) ⟨1, ["a"], context⟩) ∧
      ∃ t', g.Replies (fun _ => .many (label "letter" letter)) input .start
        (.success (.arr [.null]) t') ∧ t'.index = 1 ∧ t'.context = context := by
  intro input context g
  have htable : ∀ _ : Unit, Wrapped (· = letter) (many letter) (many (label "letter" letter)) := by
    have parts : Wrapped (· = letter) letter letter := .seqRight (.leaf nofun) (.leaf nofun)
    exact fun _ => .times 0 none (.wrap (some "letter") rfl parts)
  have rules : ∀ _ : Unit, (many letter).Everywhere fun p =>
      (¬ p.TakesBack ∧ ¬ p.ReadsState) ∧ ¬ p.FixesIndex := by
    refine fun _ => .intro ⟨⟨nofun, nofun⟩, nofun⟩ fun p hp => ?_
    obtain rfl : p = _ := hp
    refine .intro ⟨⟨nofun, nofun⟩, nofun⟩ fun p hp => ?_
    rcases hp with rfl | rfl <;> exact .intro ⟨⟨nofun, nofun⟩, nofun⟩ nofun
  have here : g.Everywhere fun p => (¬ p.TakesBack ∧ ¬ p.ReadsState) ∧ ¬ p.FixesIndex :=
    .intro ⟨⟨nofun, nofun⟩, nofun⟩ nofun
  have keeps : g.KeepsIndex (fun _ => many letter) input .start :=
    keepsIndex_of_everywhere (fun rule => (rules rule).imp fun _ hp => hp.2)
      (here.imp fun _ hp => hp.2) .start
  have parse : g.Replies (fun _ => .many letter) input .start
      (.success (.arr [.null]) ⟨1, ["a"], context⟩) := ⟨1, rfl⟩
  have hg : Wrapped (· = letter) g g := .leaf fun _ hp => hp
  obtain ⟨h, ho, t', again, index, same⟩ := wrapped_succeeds htable hg
    (fun rule => (rules rule).imp fun _ hp => hp.1) (here.imp fun _ hp => hp.1) keeps parse
  refine ⟨parse, t', again, index, same (leavesContext_of_failures fun q u x hq hx => ?_)⟩
  obtain ⟨-, rfl⟩ := ho.unique ⟨4, rfl⟩
  simp only [List.mem_cons, List.mem_append, List.not_mem_nil, or_false, false_or, and_false,
    Occurrence.returned.injEq, Reply.failure.injEq, reduceCtorEq] at hx
  rcases hx with ⟨-, rfl, rfl⟩ | ⟨-, rfl, rfl⟩ <;> rfl

/-- A repetition ends with a failure that has set the context. The wrapper forgets what was set. -/
theorem wrapped_forgets_context :
    let input := Input.ofChars []
    let context : Fields Value := .ofList [("k", .int 1)]
    let p : Grammar Empty := .seqRight (.setState ⟨0, [], context⟩) (.literal "x")
    Wrapped (· = p) (many p) (many (attempt none p)) ∧
      ((many p).Everywhere fun q => ¬ q.TakesBack ∧ ¬ q.ReadsState) ∧
      (many p).KeepsIndex Empty.elim input .start ∧
      (many p).Replies Empty.elim input .start (.success (.arr []) ⟨0, ["x"], context⟩) ∧
      ¬ ∃ t', (many (attempt none p)).Replies Empty.elim input .start (.success (.arr []) t') ∧
        t'.index = 0 ∧ t'.context = context := by
  intro input context p
  refine ⟨?_, ?_, fun r h ho x hx => ?_, ⟨0, rfl⟩, ?_⟩
  · exact .times 0 none (.wrap none rfl (.seqRight (.leaf nofun) (.leaf nofun)))
  · refine .intro ⟨nofun, nofun⟩ fun q hq => ?_
    obtain rfl : q = p := hq
    refine .intro ⟨nofun, nofun⟩ fun q hq => ?_
    rcases hq with rfl | rfl <;> exact .intro ⟨nofun, nofun⟩ nofun
  · obtain ⟨-, rfl⟩ := ho.unique ⟨3, rfl⟩
    simp only [List.mem_cons, List.mem_append, List.not_mem_nil, or_false] at hx
    rcases hx with (rfl | (rfl | (rfl | rfl) | rfl | rfl) | rfl) | rfl <;> trivial
  · rintro ⟨t', parse, -, same⟩
    have forgotten : (many (attempt none p)).Replies Empty.elim input .start
      (.success (.arr []) .start) := ⟨0, rfl⟩
    cases parse.unique forgotten
    exact absurd same (by decide)

end Grammar

end Descent
