import RichText.Yaml.Token.Stream

/-!
What a text is refused for by its characters alone. The one fault of a value among these is an
escape that stands for no character; all else that tokens can be wrong in is malformed.
-/

set_option autoImplicit false
set_option relaxedAutoImplicit false

namespace RichText.Yaml

/-- A fault of characters: there is no token, or an escape is none of a character. -/
def Fault.IsLexical (e : Fault) : Prop :=
  e = .malformed ∨ e = .value .codePoint ∨ e = .value .hugeCodePoint

def Lexical {α : Type} (r : Except Fault α) : Prop := ∀ e, r = .error e → e.IsLexical

namespace Lexical

variable {α β : Type} {r : Except Fault α} {f : α → Except Fault β}

theorem ok (a : α) : Lexical (.ok a) := nofun

theorem malformed : Lexical (.error .malformed : Except Fault α) :=
  fun _ he => .inl (Except.error.inj he).symm

theorem bind (hr : Lexical r) (hf : ∀ a, Lexical (f a)) : Lexical (r >>= f) := by
  cases r with
  | error e => exact fun d hd => Except.error.inj hd ▸ hr e rfl
  | ok a => exact hf a

private theorem ite {c : Prop} [Decidable c] {x y : Except Fault α} (hx : Lexical x)
    (hy : Lexical y) : Lexical (if c then x else y) := by
  split
  · exact hx
  · exact hy

end Lexical

section Names

private theorem lexical_readAnchorName (c : Cursor) : Lexical (readAnchorName c) :=
  .ite .malformed (.ite (.ok _) .malformed)

private theorem lexical_readEscapes (c : Cursor) (steps : Nat) : Lexical (readEscapes c steps) := by
  induction steps generalizing c with
  | zero => exact .malformed
  | succ steps ih =>
    rw [readEscapes]
    split
    · split
      · exact .malformed
      · exact (ih _).bind fun _ => .ok _
    · exact .malformed
    · exact .ok _

private theorem lexical_readAddressFrom (c : Cursor) (steps : Nat) :
    Lexical (readAddressFrom c steps) := by
  induction steps generalizing c with
  | zero => exact .malformed
  | succ steps ih =>
    rw [readAddressFrom]
    split
    · refine (lexical_readEscapes _ _).bind fun (bytes, next) => ?_
      dsimp only
      split
      · exact .malformed
      · exact (ih _).bind fun _ => .ok _
    · exact .ite ((ih _).bind fun _ => .ok _) (.ok _)
    · exact .ok _

private theorem lexical_readAddress (c : Cursor) : Lexical (readAddress c) :=
  (lexical_readAddressFrom _ _).bind fun _ => .ite .malformed (.ok _)

private theorem lexical_readHandle (c : Cursor) : Lexical (readHandle c) :=
  .ite .malformed (.ite (.ok _) (.ite (.ok _) .malformed))

private theorem lexical_readTag (c : Cursor) : Lexical (readTag c) := by
  have hend (p : Option String × String × Cursor) :
      Lexical (if endsWord p.2.2.peek then .ok (Token.tag p.1 p.2.1, p.2.2)
        else .error .malformed) := .ite (.ok _) .malformed
  unfold readTag
  dsimp +zetaHave only
  split
  · exact (lexical_readAddress _).bind fun _ => .ite (.bind (.ok _) hend) .malformed
  · have hsuffix (handle : String) (next : Cursor) :=
      (lexical_readAddress next).bind fun p => .bind (.ok (some handle, p.1, p.2)) hend
    refine .ite (.bind (.ok _) hend) (.ite ?_ ?_)
    · exact (lexical_readHandle c).bind fun _ => hsuffix _ _
    · exact .bind (.ok _) fun _ => hsuffix _ _

private theorem lexical_readNumber (c : Cursor) : Lexical (readNumber c) := .ite .malformed (.ok _)

private theorem lexical_readVersion (c : Cursor) : Lexical (readVersion c) :=
  (lexical_readNumber _).bind fun _ => .ite .malformed <|
    (lexical_readNumber _).bind fun _ => .ite (.ok _) .malformed

private theorem lexical_readTagHandle (c : Cursor) : Lexical (readTagHandle c) :=
  (lexical_readHandle _).bind fun _ => .ite .malformed <|
    (lexical_readAddress _).bind fun _ => .ite (.ok _) .malformed

private theorem lexical_readDirective (c : Cursor) : Lexical (readDirective c) := by
  have hend (p : Token × Cursor) :
      Lexical (if endsLine p.2.skipSpaces.skipComment.peek
        then .ok (p.1, p.2.skipSpaces.skipComment.skipLineBreak)
        else .error .malformed) := .ite (.ok _) .malformed
  unfold readDirective
  dsimp +zetaHave only
  refine .ite .malformed (.ite ?_ (.ite ?_ ?_))
  · exact (lexical_readVersion _).bind hend
  · exact (lexical_readTagHandle _).bind hend
  · exact .bind (.ok _) hend

end Names

section Texts

private theorem lexical_readQuotedBreaks (c : Cursor) (steps : Nat) :
    Lexical (readQuotedBreaks c steps) := by
  induction steps generalizing c with
  | zero => exact .malformed
  | succ steps ih =>
    rw [readQuotedBreaks]
    refine .ite .malformed ?_
    dsimp only
    split
    · exact .ok _
    · exact (ih _).bind fun _ => .ok _

private theorem lexical_readQuotedBlanks (c : Cursor) : Lexical (readQuotedBlanks c) := by
  refine .ite .malformed ?_
  split
  · exact .ok _
  · exact (lexical_readQuotedBreaks _ _).bind fun _ => .ok _

private theorem lexical_codeChar (n : Nat) : Lexical (codeChar n) := by
  unfold codeChar
  split
  · exact fun e he => .inr (.inr (Except.error.inj he).symm)
  · split
    · exact fun e he => .inr (.inl (Except.error.inj he).symm)
    · exact .ok _

private theorem lexical_readEscape (c : Cursor) : Lexical (readEscape c) := by
  unfold readEscape
  split
  · exact .malformed
  · split
    · exact .ok _
    · dsimp only
      split
      · exact .malformed
      · exact .ite .malformed ((lexical_codeChar _).bind fun _ => .ok _)
    · split
      · exact .malformed
      · exact lexical_readQuotedBreaks _ _

private theorem lexical_readQuotedFrom (double : Bool) (c : Cursor) (steps : Nat) :
    Lexical (readQuotedFrom double c steps) := by
  induction steps generalizing c with
  | zero => exact .malformed
  | succ steps ih =>
    rw [readQuotedFrom]
    split
    · exact .malformed
    · have hmore {α : Type} (next : Cursor) (f : List Char × Cursor → α) :
          Lexical (readQuotedFrom double next steps >>= fun p => .ok (f p)) :=
        (ih next).bind fun _ => .ok _
      refine .ite (hmore _ _) (.ite (.ok _) (.ite ?_ (.ite ?_ (hmore _ _))))
      · exact (lexical_readEscape _).bind fun _ => hmore _ _
      · exact (lexical_readQuotedBlanks _).bind fun _ => hmore _ _

private theorem lexical_readBlockHeader (c : Cursor) : Lexical (readBlockHeader c) :=
  .ite .malformed (.ite (.ok _) .malformed)

private theorem lexical_readBlock (outer : Int) (c : Cursor) : Lexical (readBlock outer c) :=
  (lexical_readBlockHeader _).bind fun _ => .ok _

end Texts

namespace Stream

private theorem lexical_dropKey (s : Stream) : Lexical s.dropKey := by
  unfold dropKey
  split
  · exact .ok _
  · exact .ite .malformed (.ok _)

private theorem lexical_saveKey (s : Stream) : Lexical s.saveKey :=
  .ite (.ok _) (s.lexical_dropKey.bind fun _ => .ok _)

private theorem lexical_dropStaleKeys (s : Stream) : Lexical s.dropStaleKeys :=
  .ite .malformed (.ok _)

private theorem lexical_finish (s : Stream) : Lexical s.finish :=
  (lexical_dropKey _).bind fun _ => .ok _

private theorem lexical_endDocument (s : Stream) : Lexical s.endDocument :=
  (lexical_dropKey _).bind fun _ => .ok _

private theorem lexical_beginEntry (start : Token) (s : Stream) : Lexical (s.beginEntry start) := by
  refine .ite (.ok _) (.ite .malformed ?_)
  split
  · exact .ok _
  · exact .ok _

private theorem lexical_readValue (s : Stream) : Lexical s.readValue := by
  have hend (s : Stream) :
      Lexical (.ok ({ s with cursor := s.cursor.advance }.emit .value) : Except Fault Stream) :=
    .ok _
  unfold readValue
  dsimp +zetaHave only
  split
  · refine .ite (.bind (.ok _) hend) ?_
    split
    · exact .bind (.ok _) hend
    · exact .bind (.ok _) hend
  · exact (lexical_beginEntry _ _).bind fun _ => (lexical_dropKey _).bind hend

private theorem lexical_readKeyPart {read : Cursor → Except Fault (Token × Cursor)}
    (hread : ∀ c, Lexical (read c)) (s : Stream) : Lexical (s.readKeyPart read) :=
  s.lexical_saveKey.bind fun _ => (hread _).bind fun _ => .ok _

private theorem lexical_readToken (s : Stream) (ch : Char) : Lexical (s.readToken ch) := by
  have hflow (t : Token) : Lexical (s.openFlow t) := s.lexical_saveKey.bind fun _ => .ok _
  have hclose (t : Token) : Lexical (s.closeFlow t) :=
    s.lexical_dropKey.bind fun _ => .ite .malformed (.ok _)
  have hentry (start : Token) {α : Type} (f : Stream → Stream) (g : Stream → α) :
      Lexical (do let s ← s.beginEntry start; let s ← (f s).dropKey; .ok (g s)) :=
    (s.lexical_beginEntry start).bind fun _ => (lexical_dropKey _).bind fun _ => .ok _
  have hname (c : Cursor) (t : String → Token) :
      Lexical (do let name ← readAnchorName c; .ok (t name.1, name.2)) :=
    (lexical_readAnchorName c).bind fun _ => .ok _
  unfold readToken
  dsimp +zetaHave only
  refine .ite ?_ <| .ite ?_ <| .ite (hflow _) <| .ite (hflow _) <| .ite (hclose _) <|
    .ite (hclose _) <| .ite ?_ <| .ite (hentry _ _ _) <| .ite (hentry _ _ _) <|
    .ite s.lexical_readValue <| .ite ?_ <| .ite ?_ <| .ite ?_ <| .ite ?_ <| .ite ?_ <|
    .ite ?_ .malformed
  · exact s.lexical_endDocument.bind fun _ => (lexical_readDirective _).bind fun _ => .ok _
  · exact s.lexical_endDocument.bind fun _ => .ok _
  · exact (lexical_dropKey _).bind fun _ => .ok _
  · exact lexical_readKeyPart (fun c => hname c .alias) s
  · exact lexical_readKeyPart (fun c => hname c .anchor) s
  · exact lexical_readKeyPart lexical_readTag s
  · exact (lexical_dropKey _).bind fun _ => (lexical_readBlock _ _).bind fun _ => .ok _
  · exact lexical_readKeyPart (fun c => (lexical_readQuotedFrom _ _ _).bind fun _ => .ok _) s
  · exact s.lexical_saveKey.bind fun _ => .ok _

private theorem lexical_step (s : Stream) : Lexical s.step := by
  refine (lexical_dropStaleKeys _).bind fun s => ?_
  dsimp only
  split
  · exact (lexical_finish _).bind fun _ => .ok _
  · exact (lexical_readToken _ _).bind fun _ => .ok _

private theorem isLexical_of_readAll {s : Stream} {steps : Nat} {e : Fault}
    (h : (s.readAll steps).fault = some e) : e.IsLexical := by
  induction steps generalizing s with
  | zero => exact .inl (Option.some.inj h).symm
  | succ steps ih =>
    rw [readAll] at h
    split at h
    · next d hd => exact s.lexical_dropStaleKeys e (Option.some.inj h ▸ hd)
    · next s _ =>
      split at h
      · next d hd => exact s.lexical_step e (Option.some.inj h ▸ hd)
      · cases h
      · exact ih h

end Stream

theorem Tokens.isLexical_of_fault {text : String} {e : Fault}
    (h : (Tokens.ofText text).fault = some e) : e.IsLexical := by
  unfold Tokens.ofText at h
  split at h
  · exact Stream.isLexical_of_readAll h
  · exact .inl (Option.some.inj h).symm

end RichText.Yaml
