import Descent.Proofs.Braces.Trees

/-!
# Documents are what a scanner accepts

A scanner that goes over a text once and counts how deep braces nest finds the offset of the first
error, if there is one (`scan`). The grammar accepts the same texts, and where it fails it fails at
that offset. Of an accepted text it yields the only canonical nodes that have this text.

The invariant is `ReadsNodes`: the parser of a document reads canonical nodes up to where no node
begins, and there it is for the caller to say whether that is an error, or it fails inside a group,
where the scanner fails at any depth.
-/

namespace Descent.Braces

open Node

variable {input : Input} {i j k o depth : Nat} {cs back : List Char}

/-! ## The scanner -/

/-- The offset of the first error behind the given offset, in braces of the given depth: a closing
brace too many, a backslash without a character, or an end of the text in braces. -/
def scan : (depth offset : Nat) → List Char → Option Nat
  | 0, _, [] => none
  | _ + 1, offset, [] => some offset
  | _, offset, ['\\'] => some offset
  | depth, offset, '\\' :: c :: cs => scan depth (offset + utf8Length ['\\', c]) cs
  | depth, offset, '{' :: cs => scan (depth + 1) (offset + 1) cs
  | 0, offset, '}' :: _ => some offset
  | depth + 1, offset, '}' :: cs => scan depth (offset + 1) cs
  | depth, offset, c :: cs => scan depth (offset + c.utf8Size) cs

theorem scan_plain {c : Char} (plain : isPlain c = true) (k o : Nat) (cs : List Char) :
    scan k o (c :: cs) = scan k (o + c.utf8Size) cs := by
  obtain ⟨opens, closes, escapes⟩ := isPlain_iff.1 plain
  cases k <;> rw [scan] <;> grind

theorem scan_run (plain : ∀ c ∈ cs, isPlain c = true) (k o : Nat) (back : List Char) :
    scan k o (cs ++ back) = scan k (o + utf8Length cs) back := by
  induction cs generalizing o with
  | nil => rfl
  | cons c cs ih =>
    obtain ⟨hc, hcs⟩ := List.forall_mem_cons.1 plain
    rw [List.cons_append, scan_plain hc, ih hcs, utf8Length_cons, Nat.add_assoc]

theorem scan_command {name : List Char} (h : IsSymbol name ∨ IsWord name) (k o : Nat)
    (back : List Char) : scan k o (name ++ back) = scan k (o + utf8Length name) back := by
  rcases h with ⟨c, -, rfl⟩ | ⟨letters, some, all, rfl⟩
  · show scan k o ('\\' :: c :: back) = _
    rw [scan]
  · obtain ⟨c, rest, rfl⟩ := List.exists_cons_of_ne_nil some
    have plain : ∀ d ∈ rest, isPlain d = true := fun d hd =>
      isPlain_of_isAlpha (all d (List.mem_cons_of_mem c hd))
    show scan k o ('\\' :: c :: (rest ++ back)) = _
    rw [scan, scan_run plain, Nat.add_assoc, ← utf8Length_append]
    rfl

theorem utf8Length_group (ns : List Node) :
    utf8Length (Node.group ns).render = 1 + utf8Length (renderAll ns) + 1 := by
  rw [Node.render, utf8Length_cons, utf8Length_append, Nat.add_assoc]
  rfl

mutual

theorem scan_render : (n : Node) → n.Canonical → (k o : Nat) → (back : List Char) →
    scan k o (n.render ++ back) = scan k (o + utf8Length n.render) back
  | .text _, hn, k, o, back => scan_run hn.2 k o back
  | .command _, hn, k, o, back => scan_command hn k o back
  | .group children, hn, k, o, back => by
    show scan k o ('{' :: (renderAll children ++ ['}'] ++ back)) = _
    rw [scan, List.append_assoc, scan_renderAll children hn]
    show scan (k + 1) _ ('}' :: back) = _
    rw [scan, utf8Length_group, Nat.add_assoc, Nat.add_assoc, Nat.add_assoc]

theorem scan_renderAll : (ns : List Node) → CanonicalAll ns → (k o : Nat) → (back : List Char) →
    scan k o (renderAll ns ++ back) = scan k (o + utf8Length (renderAll ns)) back
  | [], _, _, _, _ => rfl
  | n :: ns, hns, k, o, back => by
    rw [renderAll, List.append_assoc, scan_render n hns.1, scan_renderAll ns hns.2.2,
      utf8Length_append, Nat.add_assoc]

end

theorem Blocked.closes_or (h : Blocked back) :
    (∃ rest, back = '}' :: rest) ∨ ¬ ['}'] <+: back ∧ ∀ k o, scan (k + 1) o back = some o := by
  cases h with
  | close rest => exact .inl ⟨rest, rfl⟩
  | nil =>
    refine .inr ⟨by decide, fun k o => ?_⟩
    rw [scan]
  | lone =>
    refine .inr ⟨by decide, fun k o => ?_⟩
    rw [scan]

theorem Blocked.scan_zero (h : Blocked back) (o : Nat) :
    scan 0 o back = if back = [] then none else some o := by
  cases h <;> rw [scan] <;> rfl

/-! ## One node -/

/-- Parses one node, where `inner` parses what stands in a group. -/
def node (inner : Parser (List Node)) : Parser Node :=
  .alt [
    command.map .command,
    text.map .text,
    (((Parser.literal "\x7b").between inner (Parser.literal "\x7d")).map .group).traced "group"]

/-- How a parse of one node may end: with a node that reaches as far as it can, without one where
none begins, or inside a group, where the scanner fails at any depth. -/
inductive ReadsNode (p : Parser Node) (input : Input) (i : Nat) (cs : List Char) : Prop where
  | reads {n : Node} {back : List Char} (canonical : n.Canonical) (ends : n.EndsBefore back)
    (text : cs = n.render ++ back) (lands : p.Lands input i (some n) (i + utf8Length n.render))
  | stops (blocked : Blocked cs) (lands : p.Lands input i none i)
  | breaks {m : Nat} (pos : 0 < m) (error : ∀ k o, scan k o cs = some (o + m))
    (lands : p.Lands input i none (i + m))

/-- How a parse of nodes may end: with as many canonical nodes as there are, or inside a group,
where the scanner fails at any depth. -/
inductive ReadsNodes (p : Parser (List Node)) (input : Input) (i : Nat) (cs : List Char) :
    Prop where
  | reads {ns : List Node} {back : List Char} (canonical : CanonicalAll ns) (blocked : Blocked back)
    (text : cs = renderAll ns ++ back)
    (lands : p.Lands input i (some ns) (i + utf8Length (renderAll ns)))
  | breaks {m : Nat} (error : ∀ k o, scan k o cs = some (o + m))
    (lands : p.Lands input i none (i + m))

variable {inner : Parser (List Node)}

theorem not_of_head?_dropWhile (p : Char → Bool) (cs : List Char) :
    ∀ c ∈ (cs.dropWhile p).head?, ¬ p c = true := by
  intro c hc
  have stop := List.head?_dropWhile_not p cs
  rw [hc] at stop
  exact Bool.eq_false_iff.1 stop

theorem all_cons_takeWhile {p : Char → Bool} {c : Char} (hc : p c = true) (cs : List Char) :
    ∀ d ∈ c :: cs.takeWhile p, p d = true :=
  List.forall_mem_cons.2 ⟨hc, fun d hd => List.all_eq_true.1 List.all_takeWhile d hd⟩

theorem node_reads_command {c : Char} (h : input.suffix? i = some ('\\' :: c :: cs)) :
    ReadsNode (node inner) input i ('\\' :: c :: cs) := by
  by_cases letter : c.isAlpha = true
  · -- the command takes all the letters, so that none follows
    have canonical : (Node.command ('\\' :: c :: cs.takeWhile Char.isAlpha)).Canonical :=
      .inr ⟨_, List.cons_ne_nil _ _, all_cons_takeWhile letter cs, rfl⟩
    have text : '\\' :: c :: cs =
        '\\' :: c :: cs.takeWhile Char.isAlpha ++ cs.dropWhile Char.isAlpha := by
      rw [List.cons_append, List.cons_append, List.takeWhile_append_dropWhile]
    exact .reads canonical (fun _ => not_of_head?_dropWhile Char.isAlpha cs) text
      (Parser.Lands.alt_head ((command_lands_word h letter).map Node.command) nofun _)
  · -- one character that is no letter makes no command of letters
    have canonical : (Node.command ['\\', c]).Canonical := .inl ⟨c, letter, rfl⟩
    have ends : (Node.command ['\\', c]).EndsBefore cs := by
      rintro ⟨letters, -, all, e⟩
      obtain rfl := (List.cons.inj e).2
      exact absurd (all c List.mem_cons_self) letter
    exact .reads canonical ends rfl
      (Parser.Lands.alt_head ((command_lands_symbol h letter).map Node.command) nofun _)

theorem node_reads_text {c : Char} (h : input.suffix? i = some (c :: cs))
    (plain : isPlain c = true) : ReadsNode (node inner) input i (c :: cs) := by
  have soft : command.Lands input i none i := by
    apply command_lands_none h
    rintro d rest e
    obtain ⟨rfl, -⟩ := List.cons.inj e
    exact absurd plain (by decide)
  have canonical : (Node.text (c :: cs.takeWhile isPlain)).Canonical :=
    ⟨List.cons_ne_nil _ _, all_cons_takeWhile plain cs⟩
  have text : c :: cs = c :: cs.takeWhile isPlain ++ cs.dropWhile isPlain := by
    rw [List.cons_append, List.takeWhile_append_dropWhile]
  exact .reads canonical (not_of_head?_dropWhile isPlain cs) text
    (Parser.Lands.alt_tail (soft.map Node.command)
      (Parser.Lands.alt_head ((text_lands h plain).map Node.text) nofun _))

theorem node_stops (h : input.suffix? i = some cs) (blocked : Blocked cs) :
    ReadsNode (node inner) input i cs := by
  have soft : command.Lands input i none i := by
    apply command_lands_none h
    rintro c rest rfl
    cases blocked
  have soft' : text.Lands input i none i := by
    apply text_lands_none h
    exact blocked.endsBefore (.text [])
  have closed : (Parser.literal "\x7b").Lands input i none i := by
    apply Parser.lands_literal_none h
    rintro ⟨rest, rfl⟩
    rcases blocked.cons with e | ⟨e, -⟩ <;> exact absurd e (by decide)
  refine .stops blocked (Parser.Lands.alt_tail (soft.map Node.command) (Parser.Lands.alt_tail
    (soft'.map Node.text) (Parser.Lands.alt_tail ?_ Parser.lands_alt_nil)))
  exact ((closed.between_none inner _).map Node.group).traced "group"

/-- What follows an opening brace decides how the group ends. -/
theorem node_lands_group {v? : Option (List Node)} (h : input.suffix? i = some ('{' :: cs))
    (lands : (inner.seqLeft (Parser.literal "\x7d")).Lands input (i + 1) v? j) (moved : i < j) :
    (node inner).Lands input i (v?.map Node.group) j := by
  have soft : command.Lands input i none i := command_lands_none h nofun
  have soft' : text.Lands input i none i := by
    apply text_lands_none h
    rintro c ⟨⟩
    decide
  have opened : (Parser.literal "\x7b").Lands input i (some "\x7b") (i + 1) :=
    Parser.lands_literal h
  refine Parser.Lands.alt_tail (soft.map Node.command) (Parser.Lands.alt_tail (soft'.map Node.text)
    (Parser.Lands.alt_head ?_ (fun _ => Nat.ne_of_lt moved) _))
  exact ((opened.between lands).map Node.group).traced "group"

theorem node_reads_group (h : input.suffix? i = some ('{' :: cs))
    (hinner : ReadsNodes inner input (i + 1) cs) :
    ReadsNode (node inner) input i ('{' :: cs) := by
  have next : input.suffix? (i + 1) = some cs := Input.suffix?_cons h
  cases hinner with
  | @reads ns back canonical blocked text lands =>
    subst text
    have behind : input.suffix? (i + 1 + utf8Length (renderAll ns)) = some back :=
      Input.suffix?_add next
    rcases blocked.closes_or with ⟨rest, rfl⟩ | ⟨missing, error⟩
    · have closed : (Parser.literal "\x7d").Lands input (i + 1 + utf8Length (renderAll ns))
          (some "\x7d") (i + 1 + utf8Length (renderAll ns) + 1) := Parser.lands_literal behind
      have group : (Node.group ns).Canonical := canonical
      have text : '{' :: (renderAll ns ++ '}' :: rest) = (Node.group ns).render ++ rest := by
        show _ = '{' :: (renderAll ns ++ ['}'] ++ rest)
        rw [List.append_assoc]
        rfl
      refine .reads group trivial text ?_
      rw [utf8Length_group, ← Nat.add_assoc, ← Nat.add_assoc]
      exact node_lands_group h (lands.seqLeft closed) (by omega)
    · have unclosed : (Parser.literal "\x7d").Lands input (i + 1 + utf8Length (renderAll ns)) none
          (i + 1 + utf8Length (renderAll ns)) := Parser.lands_literal_none behind missing
      refine .breaks (m := 1 + utf8Length (renderAll ns)) (by omega) (fun k o => ?_) ?_
      · rw [scan, scan_renderAll ns canonical, error, Nat.add_assoc]
      · rw [← Nat.add_assoc]
        exact node_lands_group h (lands.seqLeft unclosed) (by omega)
  | @breaks m error lands =>
    refine .breaks (m := 1 + m) (by omega) (fun k o => ?_) ?_
    · rw [scan, error, Nat.add_assoc]
    · rw [← Nat.add_assoc]
      exact node_lands_group h (lands.seqLeft_none _) (by omega)

/-! ## Nodes at any depth -/

/-- The parser of nodes reads what its parser of one node reads, as long as it does. -/
theorem reads_atMost {p : Parser Node} {n : Nat}
    (reads : ∀ i cs, input.suffix? i = some cs → cs.count '{' < depth → ReadsNode p input i cs)
    (h : input.suffix? i = some cs) (braces : cs.count '{' < depth) (room : cs.length < n) :
    ReadsNodes (p.atMost n) input i cs := by
  induction n generalizing i cs with
  | zero => exact absurd room (Nat.not_lt_zero _)
  | succ n ih =>
    cases reads i cs h braces with
    | stops blocked lands =>
      have canonical : CanonicalAll [] := trivial
      exact .reads canonical blocked rfl (lands.atMost_stop n)
    | breaks pos error lands =>
      exact .breaks error (lands.atMost_fail (by omega) n)
    | @reads node back canonical ends text lands =>
      subst text
      have some : 0 < node.render.length := List.length_pos_iff.2 canonical.render_ne_nil
      have moved : i < i + utf8Length node.render := by
        have := length_le_utf8Length node.render
        omega
      rw [List.length_append] at room
      rw [List.count_append] at braces
      cases ih (Input.suffix?_add h) (by omega) (by omega) with
      | @reads ns back' canonical' blocked text lands' =>
        subst text
        have canonical_cons : CanonicalAll (node :: ns) :=
          ⟨canonical, (endsBefore_renderAll_iff canonical' blocked).1 ends, canonical'⟩
        refine .reads canonical_cons blocked ?_ ?_
        · rw [renderAll, List.append_assoc]
        · rw [renderAll, utf8Length_append, ← Nat.add_assoc]
          exact lands.atMost_round moved lands'
      | @breaks m error lands' =>
        refine .breaks (m := utf8Length node.render + m) (fun k o => ?_) ?_
        · rw [scan_render node canonical, error, Nat.add_assoc]
        · rw [← Nat.add_assoc]
          exact lands.atMost_round moved lands'

theorem reads_many {p : Parser Node}
    (reads : ∀ i cs, input.suffix? i = some cs → cs.count '{' < depth → ReadsNode p input i cs)
    (h : input.suffix? i = some cs) (braces : cs.count '{' < depth) :
    ReadsNodes p.many input i cs := by
  cases reads_atMost reads h braces (Input.length_lt_maxRounds h) with
  | reads canonical blocked text lands => exact .reads canonical blocked text lands.many
  | breaks error lands => exact .breaks error lands.many

/-- Every text is read, by a parser that has one level for each opening brace and one more. -/
theorem document_reads (h : input.suffix? i = some cs) (braces : cs.count '{' < depth) :
    ReadsNodes (document depth) input i cs := by
  induction depth generalizing i cs with
  | zero => exact absurd braces (Nat.not_lt_zero _)
  | succ depth ih =>
    unfold document
    rw [Parser.unfold_succ]
    show ReadsNodes (node (document depth)).many input i cs
    refine reads_many (fun j ds h braces => ?_) h braces
    rcases ds with _ | ⟨c, ds⟩
    · exact node_stops h .nil
    by_cases opens : c = '{'
    · subst opens
      rw [List.count_cons_self] at braces
      exact node_reads_group h (ih (Input.suffix?_cons h) (Nat.lt_of_succ_lt_succ braces))
    by_cases closes : c = '}'
    · subst closes
      exact node_stops h (.close ds)
    by_cases escapes : c = '\\'
    · subst escapes
      rcases ds with _ | ⟨d, ds⟩
      · exact node_stops h .lone
      · exact node_reads_command h
    exact node_reads_text h (isPlain_iff.2 ⟨opens, closes, escapes⟩)

/-! ## Whole texts -/

/-- The grammar accepts a text and yields canonical nodes with this text, or it fails where the
scanner does. -/
theorem grammar_lands (braces : cs.count '{' < depth) :
    (∃ ns, CanonicalAll ns ∧ renderAll ns = cs ∧ scan 0 0 cs = none ∧
      (grammar depth).Lands (.ofChars cs) 0 (some ns) (utf8Length cs)) ∨
    ∃ n, scan 0 0 cs = some n ∧ (grammar depth).Lands (.ofChars cs) 0 none n := by
  cases document_reads (Input.suffix?_zero cs) braces with
  | @reads ns back canonical blocked text lands =>
    have scanned : scan 0 0 cs = if back = [] then none else some (utf8Length (renderAll ns)) := by
      rw [text, scan_renderAll ns canonical, blocked.scan_zero, Nat.zero_add]
    rw [Nat.zero_add] at lands
    by_cases whole : back = []
    · subst whole
      rw [List.append_nil] at text
      subst text
      have ended : Parser.eof.Lands (.ofChars (renderAll ns)) (utf8Length (renderAll ns)) (some ())
          (utf8Length (renderAll ns)) := by
        rw [← Input.chars_ofChars (renderAll ns), ← Input.byteLength_eq]
        exact Parser.lands_eof
      exact .inl ⟨ns, canonical, rfl, scanned, lands.seqLeft ended⟩
    · have more : utf8Length (renderAll ns) < (Input.ofChars cs).byteLength := by
        rw [Input.byteLength_eq, Input.chars_ofChars, text, utf8Length_append]
        have := length_le_utf8Length back
        have := List.length_pos_iff.2 whole
        omega
      rw [if_neg whole] at scanned
      exact .inr ⟨_, scanned, lands.seqLeft (Parser.lands_eof_none more)⟩
  | @breaks m error lands =>
    refine .inr ⟨m, ?_, ?_⟩
    · rw [error, Nat.zero_add]
    · rw [Nat.zero_add] at lands
      exact lands.seqLeft_none _

/-- The report of a run says whether the scanner accepts the text and, if it does not, where it
fails. -/
theorem run_agrees_with_scan {cs : List Char} {depth : Nat} (braces : cs.count '{' < depth) :
    ∃ r, ((grammar depth).run (.ofChars cs)).result? = some r ∧
      match scan 0 0 cs with
      | none => ∃ p, r = .parsed p
      | some n => ∃ f, r = .failed f ∧ f.index = n := by
  rcases grammar_lands braces with ⟨ns, -, -, scanned, lands⟩ | ⟨n, scanned, lands⟩
  · obtain ⟨p, result, -⟩ := lands.run_parsed
    rw [scanned]
    exact ⟨_, result, p, rfl⟩
  · obtain ⟨f, result, index⟩ := lands.run_failed
    rw [scanned]
    exact ⟨_, result, f, rfl, index⟩

/-- A group that is not closed is an error behind the last character. The escaped brace does not
close it. -/
theorem run_agrees_with_scan_unclosed :
    ['é', '{', '\\', '}', 'a'].count '{' < 2 ∧
      ∃ f, ((grammar 2).run (.ofChars ['é', '{', '\\', '}', 'a'])).result? = some (.failed f) ∧
        f.index = 6 := by
  have braces : ['é', '{', '\\', '}', 'a'].count '{' < 2 := by decide
  have scanned : scan 0 0 ['é', '{', '\\', '}', 'a'] = some 6 := by decide
  obtain ⟨r, result, report⟩ := run_agrees_with_scan braces
  rw [scanned] at report
  obtain ⟨f, rfl, index⟩ := report
  exact ⟨braces, f, result, index⟩

/-- A run yields exactly the canonical nodes that have the text. -/
theorem run_parsed_iff {cs : List Char} {depth : Nat} (braces : cs.count '{' < depth)
    (ns : List Node) :
    (∃ p, ((grammar depth).run (.ofChars cs)).result? = some (.parsed p) ∧ p.value = ns) ↔
      CanonicalAll ns ∧ renderAll ns = cs := by
  constructor
  · rintro ⟨p, result, rfl⟩
    rcases grammar_lands braces with ⟨ns, canonical, text, -, lands⟩ | ⟨n, -, lands⟩
    · obtain ⟨q, result', rfl, -⟩ := lands.run_parsed
      obtain rfl : p = q := by
        rw [result] at result'
        injection result' with e
        injection e
      exact ⟨canonical, text⟩
    · obtain ⟨f, result', -⟩ := lands.run_failed
      rw [result] at result'
      cases result'
  · rintro ⟨canonical, text⟩
    have scanned : scan 0 0 cs = none := by
      rw [← text, ← List.append_nil (renderAll ns), scan_renderAll ns canonical]
      rw [scan]
    rcases grammar_lands braces with ⟨ms, canonical', text', -, lands⟩ | ⟨n, scanned', -⟩
    · have same : renderAll ns ++ [] = renderAll ms ++ [] := by rw [text, text']
      obtain ⟨rfl, -⟩ := renderAll_append_inj ns ms canonical canonical' .nil .nil same
      obtain ⟨p, result, value, -⟩ := lands.run_parsed
      exact ⟨p, result, value⟩
    · rw [scanned] at scanned'
      cases scanned'

/-- A command of letters, a text that begins with none, and a group with an escaped brace. -/
theorem run_parsed_iff_letter :
    ['\\', 'e', 'm', ' ', 'é', '{', '\\', '}', '}'].count '{' < 2 ∧
      ∃ p, ((grammar 2).run (.ofChars ['\\', 'e', 'm', ' ', 'é', '{', '\\', '}', '}'])).result? =
          some (.parsed p) ∧
        p.value = [.command ['\\', 'e', 'm'], .text [' ', 'é'], .group [.command ['\\', '}']]] := by
  have braces : ['\\', 'e', 'm', ' ', 'é', '{', '\\', '}', '}'].count '{' < 2 := by decide
  have word : IsWord ['\\', 'e', 'm'] :=
    ⟨['e', 'm'], nofun, List.forall_mem_cons.2 ⟨rfl, List.forall_mem_singleton.2 rfl⟩, rfl⟩
  have symbol : IsSymbol ['\\', '}'] := ⟨'}', by decide, rfl⟩
  have canonical : CanonicalAll
      [.command ['\\', 'e', 'm'], .text [' ', 'é'], .group [.command ['\\', '}']]] := by
    simp [CanonicalAll, Canonical, MayPrecede, word, symbol, isPlain]
  exact ⟨braces, (run_parsed_iff braces _).2 ⟨canonical, rfl⟩⟩

end Descent.Braces
