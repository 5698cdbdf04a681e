import RichText.Proofs.Yaml.Framing
import RichText.Yaml.Document

/-!
A document is refused for its own shape or because its tokens end early. No reader of nodes has a
fault of a value to report, so that such a fault comes from the tokens.
-/

set_option autoImplicit false
set_option relaxedAutoImplicit false

namespace RichText.Yaml

/-- Reading leaves it as it is why there are no more tokens. -/
def Reading.frame : Frame Reading where
  follows r s := s.fault = r.fault
  faults r e := e = .malformed ∨ r.fault = some e
  refl _ := rfl
  trans h k := k.trans h
  back h := Or.imp_right h.symm.trans
  malformed _ := .inl rfl

open Reading (frame)

namespace Read

private theorem holds_next : frame.Holds next := by
  refine .get_bind fun r => ?_
  split
  · exact .pure r _
  · next he => exact .throw (.inr he)
  · exact .pure r _

private theorem holds_skip : frame.Holds skip := .update fun _ => rfl

private theorem holds_add (tag : String) (body : Body) : frame.Holds (add tag body) :=
  .get_bind fun _ => (Frame.HoldsAt.set rfl).bind fun _ t _ => .pure t _

private theorem holds_setBody (n : NodeId) (body : Body) : frame.Holds (setBody n body) :=
  .update fun _ => rfl

private theorem holds_addEmpty : frame.Holds addEmpty := holds_add _ _

private theorem holds_addAnchored (anchor : Option String) (tag : String) (body : Body) :
    frame.Holds (addAnchored anchor tag body) := by
  refine (holds_add tag body).bind fun n => ?_
  split
  · exact .pure n
  · exact (Frame.Holds.update fun _ => rfl).bind fun _ => .pure n

private theorem holds_fullTag (handle : Option String) (suffix : String) :
    frame.Holds (fullTag handle suffix) := by
  unfold fullTag
  split
  · exact .pure suffix
  · refine .get_bind fun r => ?_
    split
    · exact .throw (.inl rfl)
    · exact .pure r _

private theorem holds_anchor? : frame.Holds anchor? := by
  refine holds_next.bind fun t => ?_
  split
  · exact holds_skip.bind fun _ => .pure _
  · exact .pure _

end Read

open Read (holds_next holds_skip holds_addEmpty holds_addAnchored)

private theorem Properties.holds_read : frame.Holds Properties.read := by
  refine Read.holds_anchor?.bind fun first => holds_next.bind fun t => ?_
  split
  · next handle suffix =>
    have hrest : ∀ anchor, frame.Holds (do
        let tag ← Read.fullTag handle suffix
        pure { anchor, tag : Properties }) := fun _ =>
      (Read.holds_fullTag handle suffix).bind fun _ => .pure _
    refine holds_skip.bind fun _ => ?_
    cases first with
    | none => exact Read.holds_anchor?.bind hrest
    | some name => exact hrest (some name)
  · exact .pure _

private theorem Properties.holds_check (p : Properties) : frame.Holds p.check := by
  unfold Properties.check
  split
  · exact .pure ()
  · refine .get_bind fun r => ?_
    split
    · exact .throw (.inl rfl)
    · exact .pure r ()

private theorem holds_readSequence (p : Properties) {items : Read (List NodeId)}
    (h : frame.Holds items) : frame.Holds (readSequence p items) :=
  (holds_addAnchored _ _ _).bind fun n => h.bind fun _ =>
    (Read.holds_setBody n _).bind fun _ => .pure n

private theorem holds_readMapping (p : Properties) {entries : Read (List (NodeId × NodeId))}
    (h : frame.Holds entries) : frame.Holds (readMapping p entries) :=
  (holds_addAnchored _ _ _).bind fun n => h.bind fun _ =>
    (Read.holds_setBody n _).bind fun _ => .pure n

private theorem holds_readComma (first : Bool) (close : Token) :
    frame.Holds (readComma first close) := by
  refine holds_next.bind fun t => ?_
  split
  · exact .pure ()
  · split
    · exact holds_skip
    · exact .malformed

mutual

private theorem holds_readNode (place : Place) : ∀ steps, frame.Holds (readNode place steps)
  | 0 => .malformed
  | steps + 1 => by
    rw [readNode]
    refine holds_next.bind fun t => ?_
    split
    · refine .get_bind fun r => ?_
      split
      · exact .throw (.inl rfl)
      · exact (holds_skip.bind fun _ => .pure _) r
    · refine Properties.holds_read.bind fun p => holds_next.bind fun t =>
        (p.holds_check).bind fun _ => ?_
      split
      · exact holds_readSequence p (holds_readPlainItems steps)
      · exact holds_skip.bind fun _ => holds_addAnchored _ _ _
      · exact holds_skip.bind fun _ => holds_readSequence p (holds_readFlowItems true steps)
      · exact holds_skip.bind fun _ => holds_readMapping p (holds_readFlowEntries true steps)
      · exact .malformed
      · exact .malformed
      · exact holds_skip.bind fun _ => holds_readSequence p (holds_readBlockItems steps)
      · exact holds_skip.bind fun _ => holds_readMapping p (holds_readBlockEntries steps)
      · split
        · exact .malformed
        · exact holds_addAnchored _ _ _

private theorem holds_readPart (place : Place) (ends : Token → Bool) :
    ∀ steps, frame.Holds (readPart place ends steps)
  | 0 => .malformed
  | steps + 1 => by
    rw [readPart]
    refine holds_next.bind fun t => ?_
    split
    · exact holds_addEmpty
    · exact holds_readNode place steps

private theorem holds_readBlockItems : ∀ steps, frame.Holds (readBlockItems steps)
  | 0 => .malformed
  | steps + 1 => by
    rw [readBlockItems]
    refine holds_next.bind fun t => ?_
    split
    · exact holds_skip.bind fun _ => (holds_readPart _ _ steps).bind fun n =>
        (holds_readBlockItems steps).bind fun ns => .pure _
    · exact holds_skip.bind fun _ => .pure _
    · exact .malformed

private theorem holds_readPlainItems : ∀ steps, frame.Holds (readPlainItems steps)
  | 0 => .malformed
  | steps + 1 => by
    rw [readPlainItems]
    refine holds_next.bind fun t => ?_
    split
    · exact holds_skip.bind fun _ => (holds_readPart _ _ steps).bind fun n =>
        (holds_readPlainItems steps).bind fun ns => .pure _
    · exact .pure _

private theorem holds_readValue (place : Place) (ends : Token → Bool) :
    ∀ steps, frame.Holds (readValue place ends steps)
  | 0 => .malformed
  | steps + 1 => by
    rw [readValue]
    refine holds_next.bind fun t => ?_
    split
    · exact holds_skip.bind fun _ => holds_readPart place ends steps
    · exact holds_addEmpty

private theorem holds_readBlockEntries : ∀ steps, frame.Holds (readBlockEntries steps)
  | 0 => .malformed
  | steps + 1 => by
    rw [readBlockEntries]
    refine holds_next.bind fun t => ?_
    split
    · exact holds_skip.bind fun _ => (holds_readPart _ _ steps).bind fun k =>
        (holds_readValue _ _ steps).bind fun v =>
          (holds_readBlockEntries steps).bind fun es => .pure _
    · exact holds_skip.bind fun _ => .pure _
    · exact .malformed

private theorem holds_readFlowItems (first : Bool) :
    ∀ steps, frame.Holds (readFlowItems first steps)
  | 0 => .malformed
  | steps + 1 => by
    rw [readFlowItems]
    refine (holds_readComma _ _).bind fun _ => holds_next.bind fun t => ?_
    split
    · exact holds_skip.bind fun _ => .pure _
    · exact holds_skip.bind fun _ => (holds_readMapping _ (holds_readPair steps)).bind fun n =>
        (holds_readFlowItems false steps).bind fun ns => .pure _
    · exact (holds_readNode .flow steps).bind fun n =>
        (holds_readFlowItems false steps).bind fun ns => .pure _

private theorem holds_readPair : ∀ steps, frame.Holds (readPair steps)
  | 0 => .malformed
  | steps + 1 => by
    rw [readPair]
    exact (holds_readPart _ _ steps).bind fun k =>
      (holds_readValue _ _ steps).bind fun v => .pure _

private theorem holds_readFlowEntries (first : Bool) :
    ∀ steps, frame.Holds (readFlowEntries first steps)
  | 0 => .malformed
  | steps + 1 => by
    rw [readFlowEntries]
    refine (holds_readComma _ _).bind fun _ => holds_next.bind fun t => ?_
    split
    · exact holds_skip.bind fun _ => .pure _
    · exact holds_skip.bind fun _ => (holds_readPart _ _ steps).bind fun k =>
        (holds_readValue _ _ steps).bind fun v =>
          (holds_readFlowEntries false steps).bind fun es => .pure _
    · exact (holds_readNode .flow steps).bind fun k => holds_addEmpty.bind fun v =>
        (holds_readFlowEntries false steps).bind fun es => .pure _

end

namespace Document

private theorem holds_readDirectives (versioned : Bool)
    (handles : List (String × String)) (steps : Nat) :
    frame.Holds (readDirectives versioned handles steps) := by
  induction steps generalizing versioned handles with
  | zero => exact .malformed
  | succ steps ih =>
    rw [readDirectives]
    refine holds_next.bind fun t => ?_
    split
    · refine holds_skip.bind fun _ => ?_
      split
      · exact .malformed
      · exact ih _ _
    · refine holds_skip.bind fun _ => ?_
      split
      · exact .malformed
      · exact ih _ _
    · exact holds_skip.bind fun _ => ih _ _
    · exact .pure _

private theorem holds_steps : frame.Holds steps := .get_bind fun r => .pure r _

private theorem holds_skipEndMarks (steps : Nat) : frame.Holds (skipEndMarks steps) := by
  induction steps with
  | zero => exact .pure ()
  | succ steps ih =>
    rw [skipEndMarks]
    refine holds_next.bind fun t => ?_
    split
    · exact holds_skip.bind fun _ => ih
    · exact .pure ()

private theorem holds_readStart : frame.Holds readStart := by
  refine holds_steps.bind fun steps => (holds_skipEndMarks _).bind fun _ =>
    holds_next.bind fun t => ?_
  split
  · exact .pure false
  · refine (holds_readDirectives _ _ _).bind fun handles => holds_next.bind fun t => ?_
    split
    · exact holds_skip.bind fun _ => (Frame.Holds.update fun _ => rfl).bind fun _ => .pure true
    · exact .malformed

private theorem holds_readRoot : frame.Holds readRoot :=
  holds_steps.bind fun steps => holds_readPart _ _ steps

private theorem holds_readFirst : frame.Holds readFirst := by
  have hmarked : frame.Holds (do
      if ← readStart then
        let n ← readRoot
        pure (some n)
      else pure none) := by
    refine holds_readStart.bind fun b => ?_
    split
    · exact holds_readRoot.bind fun n => .pure _
    · exact .pure _
  refine holds_next.bind fun t => ?_
  split
  · exact hmarked
  · exact hmarked
  · exact hmarked
  · exact hmarked
  · exact hmarked
  · exact (Frame.Holds.update fun _ => rfl).bind fun _ => holds_steps.bind fun steps =>
      (holds_readNode _ steps).bind fun n => .pure _

private theorem holds_readOnly : frame.Holds readOnly := by
  refine holds_readFirst.bind fun root => ?_
  split
  · exact .pure none
  · refine holds_readStart.bind fun b => ?_
    split
    · exact .malformed
    · exact .pure _

/-- A document that is refused without being malformed lacks tokens. -/
theorem fault_of_ofTokens {tokens : Tokens} {e : Fault} (h : ofTokens tokens = .error e) :
    e = .malformed ∨ tokens.fault = some e := by
  rw [ofTokens] at h
  exact (holds_readOnly { tokens := tokens.tokens, fault := tokens.fault }).2 e
    (eq_error_of_bind_ok h)

end Document

end RichText.Yaml
