import Mathlib.Data.List.TakeWhile
import TaleLoom.Proofs.Placeholder.Failure
import TaleLoom.Proofs.Placeholder.Segments
/-!
Where placeholders stand. A text has a placeholder for each of its innermost groups of braces, in order
and apart from one another (`placed_exact`), and a pass puts texts in the place of some of them and
keeps every other character where it was (`Resolver.pass_spliced`).
-/

namespace TaleLoom

/-- A pair of braces in a text: what stands before, between and after them. -/
structure Group where
  before : List Char
  body : List Char
  after : List Char

structure Placed where
  start : Nat
  token : Token
  deriving DecidableEq

def Placed.stop (p : Placed) : Nat := p.start + p.token.text.length

def Placed.StandsIn (p : Placed) (cs : List Char) : Prop :=
  ∃ front behind, front.length = p.start ∧ front ++ (p.token.text ++ behind) = cs

namespace Group

/-- The text has the innermost group: there is something between its braces, and no brace. -/
structure In (g : Group) (cs : List Char) : Prop where
  filled : g.body ≠ []
  free : ∀ c ∈ g.body, isBrace c = false
  eq : g.before ++ '\x7b' :: (g.body ++ '\x7d' :: g.after) = cs

def isDoubled (g : Group) : Bool := g.before.getLast? = some '\x7b' && g.after.head? = some '\x7d'

/-- The placeholder of the group, which takes the braces directly around it. -/
def placed (g : Group) : Placed where
  start := if g.isDoubled then g.before.length - 1 else g.before.length
  token := ⟨g.isDoubled, g.body⟩

end Group

def placedFrom : Nat → List Segment → List Placed
  | _, [] => []
  | start, .plain _ :: rest => placedFrom (start + 1) rest
  | start, .token t :: rest => ⟨start, t⟩ :: placedFrom (start + t.text.length) rest

def placed (cs : List Char) : List Placed := placedFrom 0 (segments cs)

def groupsFrom (before : List Char) : List Char → List Group
  | [] => []
  | c :: cs =>
    match Token.singleAt? (c :: cs) with
    | some (t, after) => ⟨before, t.body, after⟩ :: groupsFrom (before ++ [c]) cs
    | none => groupsFrom (before ++ [c]) cs

section Scanning

namespace Token

theorem singleAt?_group {body : List Char} (hfilled : body ≠ []) (hfree : ∀ c ∈ body, isBrace c = false)
    (after : List Char) :
    singleAt? ('\x7b' :: (body ++ '\x7d' :: after)) = some (⟨false, body⟩, after) := by
  obtain ⟨c, body, rfl⟩ := List.exists_cons_of_ne_nil hfilled
  have hspan := spanBody_append hfree after
  rw [List.cons_append] at hspan
  simp only [List.cons_append, singleAt?, hspan]

theorem group_of_singleAt? {cs after : List Char} {t : Token} (h : singleAt? cs = some (t, after)) :
    t.body ≠ [] ∧ (∀ c ∈ t.body, isBrace c = false) ∧ '\x7b' :: (t.body ++ '\x7d' :: after) = cs := by
  have htext := text_singleAt? h
  unfold singleAt? at h
  split at h
  · next rest =>
    split at h
    · next c body behind hspan =>
      obtain ⟨rfl, rfl⟩ := Prod.mk.inj (Option.some.inj h)
      have hbody : rest.takeWhile (!isBrace ·) = c :: body := congrArg Prod.fst hspan
      refine ⟨List.cons_ne_nil _ _, ?_, by simpa [text] using htext⟩
      intro x hx
      rw [← hbody] at hx
      simpa using List.mem_takeWhile_imp hx
    · cases h
  · cases h

theorem singleAt?_of_ne {c : Char} (h : c ≠ '\x7b') (cs : List Char) : singleAt? (c :: cs) = none := by
  unfold singleAt?
  split
  · next heq => exact absurd (List.cons.inj heq).1 h
  · rfl

theorem singleAt?_of_none {cs : List Char} (h : at? cs = none) : singleAt? cs = none :=
  (Option.or_eq_none_iff.1 h).2

def group (t : Token) (before rest : List Char) : Group :=
  if t.doubled then ⟨before ++ ['\x7b'], t.body, '\x7d' :: rest⟩ else ⟨before, t.body, rest⟩

end Token

/-- A group stands at the front of a text exactly where single braces are found there. -/
theorem Group.in_front_iff {g : Group} {before cs : List Char} :
    g.In (before ++ cs) ∧ g.before.length = before.length ↔
      ∃ t, Token.singleAt? cs = some (t, g.after) ∧ g = ⟨before, t.body, g.after⟩ := by
  obtain ⟨front, body, after⟩ := g
  constructor
  · rintro ⟨⟨hfilled, hfree, heq⟩, hlength⟩
    obtain ⟨rfl, rfl⟩ := List.append_inj heq hlength
    exact ⟨⟨false, body⟩, Token.singleAt?_group hfilled hfree after, rfl⟩
  · rintro ⟨t, hfound, heq⟩
    obtain ⟨hfilled, hfree, htext⟩ := Token.group_of_singleAt? hfound
    obtain ⟨rfl, rfl, -⟩ := Group.mk.inj heq
    exact ⟨⟨hfilled, hfree, by rw [← htext]⟩, rfl⟩

theorem groupsFrom_of_none {c : Char} {cs : List Char} (h : Token.singleAt? (c :: cs) = none)
    (before : List Char) : groupsFrom before (c :: cs) = groupsFrom (before ++ [c]) cs := by
  rw [groupsFrom, h]

/-- Looking for a group at every character finds the innermost groups from there on, and no others. -/
theorem mem_groupsFrom {g : Group} {before cs : List Char} :
    g ∈ groupsFrom before cs ↔ g.In (before ++ cs) ∧ before.length ≤ g.before.length := by
  induction cs generalizing before with
  | nil =>
    rw [groupsFrom]
    refine iff_of_false List.not_mem_nil ?_
    rintro ⟨⟨-, -, heq⟩, hle⟩
    have hlength := congrArg List.length heq
    simp only [List.length_append, List.length_cons, List.length_nil] at hlength
    omega
  | cons c cs ih =>
    have hnext : g ∈ groupsFrom (before ++ [c]) cs ↔
        g.In (before ++ c :: cs) ∧ before.length < g.before.length := by
      rw [ih, List.append_assoc, List.singleton_append, List.length_append, List.length_singleton,
        Nat.lt_iff_add_one_le]
    have hsplit : g.In (before ++ c :: cs) ∧ before.length ≤ g.before.length ↔
        (∃ t, Token.singleAt? (c :: cs) = some (t, g.after) ∧ g = ⟨before, t.body, g.after⟩) ∨
          g ∈ groupsFrom (before ++ [c]) cs := by
      rw [← Group.in_front_iff, hnext, ← and_or_left, Nat.le_iff_lt_or_eq, or_comm, eq_comm]
    rw [hsplit]
    cases hfound : Token.singleAt? (c :: cs) with
    | none => simp [groupsFrom_of_none hfound]
    | some found =>
      obtain ⟨t, after⟩ := found
      rw [groupsFrom, hfound, List.mem_cons]
      apply or_congr_left
      constructor
      · rintro rfl
        exact ⟨t, rfl, rfl⟩
      · rintro ⟨t', ht', hg⟩
        obtain ⟨rfl, hafter⟩ := Prod.mk.inj (Option.some.inj ht')
        rw [hafter]
        exact hg

theorem pairwise_groupsFrom (before cs : List Char) :
    (groupsFrom before cs).Pairwise fun g g' => g.before.length < g'.before.length := by
  induction cs generalizing before with
  | nil => exact List.Pairwise.nil
  | cons c cs ih =>
    rw [groupsFrom]
    split
    · refine List.pairwise_cons.2 ⟨?_, ih _⟩
      intro g hg
      have hle := (mem_groupsFrom.1 hg).2
      rw [List.length_append, List.length_singleton] at hle
      exact hle
    · exact ih _

/-- No group starts where no brace is opened. -/
theorem groupsFrom_append {front : List Char} (h : ∀ c ∈ front, c ≠ '\x7b') (before rest : List Char) :
    groupsFrom before (front ++ rest) = groupsFrom (before ++ front) rest := by
  induction front generalizing before with
  | nil => rw [List.nil_append, List.append_nil]
  | cons c front ih =>
    obtain ⟨hc, hfront⟩ := List.forall_mem_cons.1 h
    calc groupsFrom before (c :: (front ++ rest))
        = groupsFrom (before ++ [c]) (front ++ rest) :=
          groupsFrom_of_none (Token.singleAt?_of_ne hc _) before
      _ = groupsFrom (before ++ [c] ++ front) rest := ih hfront _
      _ = groupsFrom (before ++ c :: front) rest := by rw [List.append_assoc, List.singleton_append]

/-- In a placeholder stands one innermost group. -/
theorem groupsFrom_text {t : Token} (h : t.Proper) (before rest : List Char) :
    groupsFrom before (t.text ++ rest) = t.group before rest :: groupsFrom (before ++ t.text) rest := by
  obtain ⟨doubled, body⟩ := t
  obtain ⟨hfilled, hfree⟩ := h
  have hclosed : ∀ c ∈ body ++ ['\x7d'], c ≠ '\x7b' := by
    rintro c hc rfl
    rcases List.mem_append.1 hc with hc | hc
    · exact absurd (hfree _ hc) (by decide)
    · exact absurd hc (by decide)
  have hsingle (before rest : List Char) : groupsFrom before ('\x7b' :: (body ++ '\x7d' :: rest)) =
      ⟨before, body, rest⟩ :: groupsFrom (before ++ ['\x7b'] ++ (body ++ ['\x7d'])) rest := by
    rw [groupsFrom, Token.singleAt?_group hfilled hfree, ← groupsFrom_append hclosed,
      List.append_assoc, List.singleton_append]
  cases doubled with
  | false =>
    calc groupsFrom before (Token.text ⟨false, body⟩ ++ rest)
        = groupsFrom before ('\x7b' :: (body ++ '\x7d' :: rest)) := by simp [Token.text]
      _ = ⟨before, body, rest⟩ :: groupsFrom (before ++ ['\x7b'] ++ (body ++ ['\x7d'])) rest :=
        hsingle before rest
      _ = _ := by simp [Token.text, Token.group]
  | true =>
    have houter : Token.singleAt? ('\x7b' :: '\x7b' :: (body ++ '\x7d' :: '\x7d' :: rest)) = none := rfl
    have hclose : Token.singleAt? ('\x7d' :: rest) = none := Token.singleAt?_of_ne (by decide) rest
    calc groupsFrom before (Token.text ⟨true, body⟩ ++ rest)
        = groupsFrom before ('\x7b' :: '\x7b' :: (body ++ '\x7d' :: '\x7d' :: rest)) := by
          simp [Token.text]
      _ = groupsFrom (before ++ ['\x7b']) ('\x7b' :: (body ++ '\x7d' :: '\x7d' :: rest)) :=
        groupsFrom_of_none houter before
      _ = ⟨before ++ ['\x7b'], body, '\x7d' :: rest⟩ ::
          groupsFrom (before ++ ['\x7b'] ++ ['\x7b'] ++ (body ++ ['\x7d'])) ('\x7d' :: rest) :=
        hsingle (before ++ ['\x7b']) ('\x7d' :: rest)
      _ = ⟨before ++ ['\x7b'], body, '\x7d' :: rest⟩ ::
          groupsFrom (before ++ ['\x7b'] ++ ['\x7b'] ++ (body ++ ['\x7d']) ++ ['\x7d']) rest := by
        rw [groupsFrom_of_none hclose]
      _ = _ := by simp [Token.text, Token.group]

/-- The placeholder of the group that it is taken for stands where it is found, if no braces around it
were passed over. -/
theorem placed_group {t : Token} {before rest : List Char} (h : t.Proper)
    (hpassed : before.getLast? = some '\x7b' → Token.at? ('\x7b' :: (t.text ++ rest)) = none) :
    (t.group before rest).placed = ⟨before.length, t⟩ := by
  obtain ⟨doubled, body⟩ := t
  cases doubled with
  | true => simp [Token.group, Group.placed, Group.isDoubled]
  | false =>
    have hsingle : Group.isDoubled ⟨before, body, rest⟩ = false := by
      rw [Group.isDoubled, Bool.and_eq_false_iff]
      by_contra hboth
      simp only [not_or, Bool.not_eq_false, decide_eq_true_eq] at hboth
      obtain ⟨hbefore, hafter⟩ := hboth
      obtain ⟨rest', rfl⟩ := List.head?_eq_some_iff.1 hafter
      have hdoubled : Token.Proper ⟨true, body⟩ := ⟨h.filled, h.free⟩
      have hfound := Token.at?_text hdoubled rest'
      have htext : Token.text ⟨true, body⟩ ++ rest' =
          '\x7b' :: (Token.text ⟨false, body⟩ ++ '\x7d' :: rest') := by simp [Token.text]
      rw [htext, hpassed hbefore] at hfound
      cases hfound
    simp [Token.group, Group.placed, hsingle]

theorem getLast?_text (t : Token) (before : List Char) :
    (before ++ t.text).getLast? = some '\x7d' := by
  obtain ⟨front, hfront⟩ : ∃ front, t.text = front ++ ['\x7d'] := by
    unfold Token.text
    split
    · exact ⟨'\x7b' :: '\x7b' :: t.body ++ ['\x7d'], by simp⟩
    · exact ⟨'\x7b' :: t.body, rfl⟩
  rw [hfront, ← List.append_assoc, List.getLast?_concat]

/-- The placeholders from a character on are those of the innermost groups from there on. What the
induction carries is that no doubled braces open at the character before. -/
theorem placedFrom_segments {before cs : List Char}
    (h : before.getLast? = some '\x7b' → Token.at? ('\x7b' :: cs) = none) :
    placedFrom before.length (segments cs) = (groupsFrom before cs).map Group.placed := by
  fun_induction segments cs generalizing before with
  | case1 => rfl
  | case2 c cs t rest hfound ih =>
    have hproper := Token.proper_of_at? hfound
    rw [← Token.text_at? hfound] at h
    have hrest : (before ++ t.text).getLast? = some '\x7b' → Token.at? ('\x7b' :: rest) = none := by
      rw [getLast?_text]
      exact fun hopen => absurd hopen (by decide)
    calc placedFrom before.length (.token t :: segments rest)
        = ⟨before.length, t⟩ :: placedFrom (before ++ t.text).length (segments rest) := by
          rw [placedFrom, List.length_append]
      _ = (t.group before rest).placed :: (groupsFrom (before ++ t.text) rest).map Group.placed := by
          rw [placed_group hproper h, ih hrest]
      _ = (groupsFrom before (c :: cs)).map Group.placed := by
          rw [← Token.text_at? hfound, groupsFrom_text hproper, List.map_cons]
  | case3 c cs hnone ih =>
    have hrest : (before ++ [c]).getLast? = some '\x7b' → Token.at? ('\x7b' :: cs) = none := by
      rw [List.getLast?_concat]
      intro hopen
      rw [← Option.some.inj hopen]
      exact hnone
    calc placedFrom before.length (.plain c :: segments cs)
        = placedFrom (before ++ [c]).length (segments cs) := by rw [placedFrom, List.length_append]; rfl
      _ = (groupsFrom (before ++ [c]) cs).map Group.placed := ih hrest
      _ = (groupsFrom before (c :: cs)).map Group.placed := by
          rw [groupsFrom_of_none (Token.singleAt?_of_none hnone)]

end Scanning

section Places

theorem placedFrom_cons_sublist (start : Nat) (segment : Segment) (rest : List Segment) :
    (placedFrom (start + segment.text.length) rest).Sublist (placedFrom start (segment :: rest)) := by
  cases segment with
  | plain c => exact List.Sublist.refl _
  | token t => exact List.sublist_cons_self _ _

theorem le_start {start : Nat} {row : List Segment} {p : Placed} (h : p ∈ placedFrom start row) :
    start ≤ p.start := by
  induction row generalizing start with
  | nil => cases h
  | cons segment rest ih =>
    cases segment with
    | plain c => exact Nat.le_of_succ_le (ih h)
    | token t =>
      rcases List.mem_cons.1 h with rfl | h
      · exact Nat.le_refl _
      · exact Nat.le_trans (Nat.le_add_right _ _) (ih h)

/-- The placeholders of a row stand one behind the other. -/
theorem pairwise_placedFrom (start : Nat) (row : List Segment) :
    (placedFrom start row).Pairwise fun p q => p.stop ≤ q.start := by
  induction row generalizing start with
  | nil => exact List.Pairwise.nil
  | cons segment rest ih =>
    cases segment with
    | plain c => exact ih _
    | token t => exact List.pairwise_cons.2 ⟨fun _ hq => le_start hq, ih _⟩

theorem standsIn_of_mem {before : List Char} {row : List Segment} {p : Placed}
    (h : p ∈ placedFrom before.length row) : p.StandsIn (before ++ row.flatMap Segment.text) := by
  induction row generalizing before with
  | nil => cases h
  | cons segment rest ih =>
    have hnext (h : p ∈ placedFrom (before ++ segment.text).length rest) :
        p.StandsIn (before ++ (segment :: rest).flatMap Segment.text) := by
      have hstands := ih h
      rwa [List.append_assoc, ← List.flatMap_cons] at hstands
    rw [List.length_append] at hnext
    cases segment with
    | plain c => exact hnext h
    | token t =>
      rcases List.mem_cons.1 h with rfl | h
      · exact ⟨before, rest.flatMap Segment.text, rfl, rfl⟩
      · exact hnext h

theorem tokens_placedFrom (start : Nat) (row : List Segment) :
    (placedFrom start row).map (·.token) = row.filterMap fun
      | .token t => some t
      | .plain _ => none := by
  induction row generalizing start with
  | nil => rfl
  | cons segment rest ih =>
    cases segment with
    | plain c => exact ih _
    | token t => exact congrArg (t :: ·) (ih _)

end Places

/-- A placeholder in its place, and the text that is put there. -/
structure Edit where
  place : Placed
  replacement : String

namespace Edit

def detail (depth : Int) (e : Edit) : EventDetail :=
  .expansion (.text (String.ofList e.place.token.text)) (.text e.replacement) (.int depth)

/-- The text with every replacement in its place, where so many characters stand before the text. -/
def splice : Nat → List Char → List Edit → List Char
  | _, text, [] => text
  | start, text, e :: es =>
    text.take (e.place.start - start) ++
      (e.replacement.toList ++ splice e.place.stop (text.drop (e.place.stop - start)) es)

/-- What stands before every replacement stays. -/
theorem splice_append {start : Nat} {front : List Char} {edits : List Edit}
    (h : ∀ e ∈ edits, start + front.length ≤ e.place.start) (rest : List Char) :
    splice start (front ++ rest) edits = front ++ splice (start + front.length) rest edits := by
  cases edits with
  | nil => rfl
  | cons e edits =>
    have hstart := h e List.mem_cons_self
    have hstop : e.place.start ≤ e.place.stop := Nat.le_add_right _ _
    have htake : (front ++ rest).take (e.place.start - start) =
        front ++ rest.take (e.place.start - (start + front.length)) := by
      rw [List.take_append, List.take_of_length_le (by omega), Nat.sub_sub]
    have hdrop : (front ++ rest).drop (e.place.stop - start) =
        rest.drop (e.place.stop - (start + front.length)) := by
      rw [List.drop_append, List.drop_of_length_le (by omega), List.nil_append, Nat.sub_sub]
    rw [splice, splice, htake, hdrop, List.append_assoc]

/-- A placeholder at the front makes way for its replacement. -/
theorem splice_cons (start : Nat) (t : Token) (s : String) (rest : List Char) (edits : List Edit) :
    splice start (t.text ++ rest) (⟨⟨start, t⟩, s⟩ :: edits) =
      s.toList ++ splice (start + t.text.length) rest edits := by
  have hstop : Placed.stop ⟨start, t⟩ = start + t.text.length := rfl
  simp only [splice, hstop, Nat.sub_self, Nat.add_sub_cancel_left, List.take_zero, List.drop_left,
    List.nil_append]

end Edit

namespace Resolver

variable {resolver : Resolver} {depth : Int}

/-- A pass puts the values of its trials in the places of some placeholders of its segments. -/
theorem PassRun.splices {state state' : PassState} {row : List Segment} {scene after : Scene}
    {trials : List Trial} {pieces : List Value} {last : Except Fault PassState}
    (h : PassRun resolver depth state row scene trials pieces last after) (hlast : last = .ok state')
    {text : List Char} (hjoin : joinPieces pieces = .ok text) (start : Nat) :
    ∃ edits : List Edit, (edits.map (·.place)).Sublist (placedFrom start row) ∧
      text = Edit.splice start (row.flatMap Segment.text) edits ∧
      resolver.expansionsOf trials = edits.map (Edit.detail depth) := by
  have hkept (segment : Segment) {rest : List Segment} {text' : List Char} {start : Nat}
      {edits : List Edit}
      (hplaces : (edits.map (·.place)).Sublist (placedFrom (start + segment.text.length) rest))
      (htext : text' = Edit.splice (start + segment.text.length) (rest.flatMap Segment.text) edits) :
      (edits.map (·.place)).Sublist (placedFrom start (segment :: rest)) ∧
        segment.text ++ text' =
          Edit.splice start ((segment :: rest).flatMap Segment.text) edits := by
    refine ⟨hplaces.trans (placedFrom_cons_sublist _ _ _), ?_⟩
    rw [List.flatMap_cons, Edit.splice_append _ _, htext]
    intro e he
    exact le_start (hplaces.subset (List.mem_map_of_mem he))
  induction h generalizing text start with
  | done state scene =>
    obtain rfl := Except.ok.inj hjoin
    exact ⟨[], List.Sublist.slnil, rfl, rfl⟩
  | @skipped state segment rest scene after trials pieces last _ _ ih =>
    obtain ⟨s, text', hs, hjoin', rfl⟩ := parts_of_joinPieces hjoin
    obtain ⟨edits, hplaces, htext, hdetails⟩ := ih hlast hjoin' (start + segment.text.length)
    obtain rfl := Value.text.inj hs
    obtain ⟨hplaces', htext'⟩ := hkept segment hplaces htext
    exact ⟨edits, hplaces', by rw [String.toList_ofList, htext'], hdetails⟩
  | @rejected state token rest scene next after trials pieces last _ hout _ ih =>
    obtain ⟨s, text', hs, hjoin', rfl⟩ := parts_of_joinPieces hjoin
    obtain ⟨edits, hplaces, htext, hdetails⟩ := ih hlast hjoin' (start + token.text.length)
    obtain rfl := Value.text.inj hs
    obtain ⟨hplaces', htext'⟩ := hkept (.token token) hplaces htext
    refine ⟨edits, hplaces', by rw [String.toList_ofList, htext'], ?_⟩
    rw [expansionsOf_of_rejected hout, hdetails]
  | @replaced state token rest scene next after trials pieces last v _ hout _ ih =>
    obtain ⟨s, text', rfl, hjoin', rfl⟩ := parts_of_joinPieces hjoin
    obtain ⟨edits, hplaces, htext, hdetails⟩ := ih hlast hjoin' (start + token.text.length)
    refine ⟨⟨⟨start, token⟩, s⟩ :: edits, hplaces.cons_cons _, ?_, ?_⟩
    · rw [List.flatMap_cons, Segment.text, Edit.splice_cons, htext]
    · rw [expansionsOf_of_replaced hout, hdetails]
      rfl
  | failed _ _ => cases hlast

/-- A pass that ends well leaves its text with replacements in the places of some of the placeholders,
and tells of these replacements. -/
theorem pass_spliced {rejected : List (List Char)} {text text' : List Char} {state : PassState}
    {scene after : Scene} (h : resolver.pass depth rejected text scene = .ok (text', state) after) :
    ∃ edits : List Edit, (edits.map (·.place)).Sublist (placed text) ∧
      text' = Edit.splice 0 text edits ∧ (state.replaced = true ↔ edits ≠ []) ∧
      resolver.expansionsOf (resolver.passTrials depth { rejected } (segments text) scene) =
        edits.map (Edit.detail depth) := by
  obtain ⟨pieces, last, next, hrun, heq⟩ := passRun resolver depth { rejected } (segments text) scene
  rw [run_pass, heq] at h
  cases last with
  | error fault => cases h
  | ok state' =>
    have hreplaced := hrun.replaced_iff
    cases hmark : state'.replaced with
    | false =>
      simp only [hmark, Bool.false_eq_true, if_false] at h
      obtain ⟨hpair, rfl⟩ := EStateM.Result.ok.inj h
      obtain ⟨rfl, rfl⟩ := Prod.mk.inj hpair
      have hnone : resolver.expansionsOf
          (resolver.passTrials depth { rejected } (segments text) scene) = [] := by
        simpa [hmark] using hreplaced
      exact ⟨[], List.nil_sublist _, rfl, by simp [hmark], hnone⟩
    | true =>
      simp only [hmark, if_true] at h
      cases hjoin : joinPieces pieces with
      | error fault =>
        rw [hjoin] at h
        cases h
      | ok joined =>
        rw [hjoin] at h
        obtain ⟨hpair, rfl⟩ := EStateM.Result.ok.inj h
        obtain ⟨rfl, rfl⟩ := Prod.mk.inj hpair
        obtain ⟨edits, hplaces, htext, hdetails⟩ := hrun.splices rfl hjoin 0
        rw [flatten_segments] at htext
        refine ⟨edits, hplaces, htext, ?_, hdetails⟩
        rw [hreplaced, hdetails]
        simp

/-- A pass fails exactly where one of its trials fails or gives what is no text. -/
theorem pass_fails_iff (rejected : List (List Char)) (text : List Char) (scene : Scene) :
    (resolver.pass depth rejected text).Fails scene ↔
      ∃ trial ∈ resolver.passTrials depth { rejected } (segments text) scene,
        trial.Breaks resolver := by
  obtain ⟨pieces, last, after, hrun, heq⟩ := passRun resolver depth { rejected } (segments text) scene
  have hpass := run_pass resolver depth rejected text scene
  rw [heq] at hpass
  rw [Act.fails_iff, hrun.breaks_iff]
  cases last with
  | error fault => simp [hpass]
  | ok state =>
    cases hmark : state.replaced with
    | false =>
      have hnone : ¬ resolver.expansionsOf
          (resolver.passTrials depth { rejected } (segments text) scene) ≠ [] :=
        fun hsome => absurd (hrun.replaced_iff.2 (Or.inr hsome)) (by simp [hmark])
      have hpieces := mt hrun.expansionsOf_ne_nil hnone
      simp only [hmark, Bool.false_eq_true, if_false] at hpass
      simp [hpass, hpieces]
    | true =>
      simp only [hmark, if_true] at hpass
      rw [← joinPieces_error_iff]
      cases hjoin : joinPieces pieces with
      | ok joined => simp [hpass, hjoin]
      | error fault => simp [hpass, hjoin]

variable (resolver depth) in
/-- Segments without placeholders are passed over. -/
theorem run_passSegments_plain {start : Nat} {row : List Segment} (h : placedFrom start row = [])
    (state : PassState) (scene : Scene) :
    ∃ pieces, resolver.passSegments depth state row scene = .ok (pieces, state) scene := by
  induction row generalizing start with
  | nil => exact ⟨[], rfl⟩
  | cons segment rest ih =>
    cases segment with
    | plain c =>
      obtain ⟨pieces, hpieces⟩ := ih h
      refine ⟨.text (String.singleton c) :: pieces, ?_⟩
      simp only [passSegments, passSegment, Act.run_bind, Act.run_pure, hpieces]
    | token t => cases h

theorem tokens_eq_placed (text : List Char) : tokens text = (placed text).map (·.token) :=
  (tokens_placedFrom 0 (segments text)).symm

/-- A text without placeholders is what it expands to, and nothing else happens. -/
theorem resolve_of_placed_nil {text : String} (h : placed text.toList = []) (resolver : Resolver)
    (depth : Int) (scene : Scene) : resolver.resolve text depth scene = .ok text scene := by
  have hexpand (passes : Nat) :
      resolver.expand passes depth [] text.toList scene = .ok text.toList scene := by
    cases passes with
    | zero =>
      have hleft : pending [] text.toList = [] := by
        rw [pending, tokens_eq_placed, h, List.map_nil, List.filter_nil]
      rw [run_warn_pending, hleft]
      rfl
    | succ passes =>
      obtain ⟨pieces, hpieces⟩ := run_passSegments_plain resolver depth h { rejected := [] } scene
      have hpass := run_pass resolver depth [] text.toList scene
      rw [hpieces] at hpass
      simp only [Bool.false_eq_true, if_false] at hpass
      simp only [expand, Act.run_bind, hpass, Bool.false_eq_true, if_false, Act.run_pure]
  simp only [resolve, Act.run_bind, hexpand, Act.run_pure, String.ofList_toList]

/-- The placeholders of a text are its innermost groups of braces, each once and in order, with doubled
braces exactly where another pair stands directly around the group; they lie apart from one another. A
pass puts replacements in the places of some of them and keeps all else, unless one of its trials fails
or gives what is no text. A text without an innermost group is what it expands to, and nothing else
happens. -/
theorem placed_exact :
    (∀ text : List Char, tokens text = (placed text).map (·.token) ∧
      (∀ p ∈ placed text, p.StandsIn text) ∧ (placed text).Pairwise (fun p q => p.stop ≤ q.start) ∧
      ∃ groups : List Group, (∀ g, g ∈ groups ↔ g.In text) ∧
        groups.Pairwise (fun g g' => g.before.length < g'.before.length) ∧
        placed text = groups.map Group.placed) ∧
    (∀ (resolver : Resolver) (depth : Int) (rejected : List (List Char)) (text text' : List Char)
      (state : PassState) (scene after : Scene),
      resolver.pass depth rejected text scene = .ok (text', state) after →
        ∃ edits : List Edit, (edits.map (·.place)).Sublist (placed text) ∧
          text' = Edit.splice 0 text edits ∧ (state.replaced = true ↔ edits ≠ []) ∧
          resolver.expansionsOf (resolver.passTrials depth { rejected } (segments text) scene) =
            edits.map (Edit.detail depth)) ∧
    (∀ (resolver : Resolver) (depth : Int) (rejected : List (List Char)) (text : List Char)
      (scene : Scene), (resolver.pass depth rejected text).Fails scene ↔
        ∃ trial ∈ resolver.passTrials depth { rejected } (segments text) scene,
          trial.Breaks resolver) ∧
    ∀ text : String, (∀ g : Group, ¬ g.In text.toList) → ∀ (resolver : Resolver) (depth : Int)
      (scene : Scene), resolver.resolve text depth scene = .ok text scene := by
  have hgroups (text : List Char) : placed text = (groupsFrom [] text).map Group.placed :=
    @placedFrom_segments [] text fun hopen => by cases hopen
  have hmem (text : List Char) (g : Group) : g ∈ groupsFrom [] text ↔ g.In text := by
    simpa using @mem_groupsFrom g [] text
  refine ⟨?found, ?pass, ?fails, ?plain⟩
  case found =>
    intro text
    refine ⟨tokens_eq_placed text, ?_, pairwise_placedFrom 0 _, groupsFrom [] text, hmem text,
      pairwise_groupsFrom [] text, hgroups text⟩
    intro p hp
    have hstands := @standsIn_of_mem [] (segments text) p hp
    rwa [List.nil_append, flatten_segments] at hstands
  case pass =>
    intro resolver depth rejected text text' state scene after hpass
    exact pass_spliced hpass
  case fails =>
    intro resolver depth rejected text scene
    exact pass_fails_iff rejected text scene
  case plain =>
    intro text hnone resolver depth scene
    apply resolve_of_placed_nil
    rw [hgroups, List.map_eq_nil_iff, List.eq_nil_iff_forall_not_mem]
    exact fun g hg => hnone g ((hmem _ g).1 hg)

/-- A brace that is not closed stays, and the doubled braces behind it make way for the number. -/
theorem placed_exact_nested : ∃ (after : Scene) (state : PassState) (edits : List Edit),
    ({} : Resolver).pass 0 [] "\x7b\x7b\x7brand 1-1\x7d\x7d".toList Scene.blank =
        .ok ("\x7b1".toList, state) after ∧
      placed "\x7b\x7b\x7brand 1-1\x7d\x7d".toList = [⟨1, ⟨true, "rand 1-1".toList⟩⟩] ∧
      (edits.map (·.place)).Sublist (placed "\x7b\x7b\x7brand 1-1\x7d\x7d".toList) ∧
      "\x7b1".toList = Edit.splice 0 "\x7b\x7b\x7brand 1-1\x7d\x7d".toList edits := by
  have hresult : ((·.1) <$> ({} : Resolver).pass 0 [] "\x7b\x7b\x7brand 1-1\x7d\x7d".toList).result?
      Scene.blank = some "\x7b1".toList := by decide +kernel
  obtain ⟨after, hmapped⟩ := Act.ok_of_result? hresult
  rw [Act.run_map] at hmapped
  cases hpass : ({} : Resolver).pass 0 [] "\x7b\x7b\x7brand 1-1\x7d\x7d".toList Scene.blank with
  | error fault stop =>
    rw [hpass] at hmapped
    cases hmapped
  | ok result stop =>
    obtain ⟨text', state⟩ := result
    rw [hpass] at hmapped
    obtain ⟨rfl, rfl⟩ := EStateM.Result.ok.inj hmapped
    obtain ⟨edits, hplaces, htext, -⟩ := placed_exact.2.1 _ _ _ _ _ _ _ _ hpass
    exact ⟨_, state, edits, rfl, by decide +kernel, hplaces, htext⟩

end Resolver

end TaleLoom
