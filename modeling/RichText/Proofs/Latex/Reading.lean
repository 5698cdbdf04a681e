import RichText.Markup.Latex
import RichText.Proofs.Text.Characters

/-!
How TeX reads a text: as control sequences and single characters, some of which open and close
groups. The commands for lists and environments are found among the control sequences, and a text
made of whole pieces is one in which no piece can run into the next.
-/

set_option autoImplicit false
set_option relaxedAutoImplicit false

namespace RichText.Tex

/-- A control sequence, or a character that belongs to none. -/
inductive Token
  | control (name : List Char)
  | char (c : Char)
  deriving DecidableEq, Repr

/-- The name behind a backslash: the longest run of ASCII letters, or else one character. -/
def controlName (cs : List Char) : List Char :=
  match cs.takeWhile Char.isAlpha with
  | [] => cs.take 1
  | name => name

/-- The tokens of a text whose first `skip` characters belong to the token before it. -/
def tokensFrom (skip : Nat) : List Char → List Token
  | [] => []
  | c :: rest =>
    match skip with
    | n + 1 => tokensFrom n rest
    | 0 =>
      if c = '\\' then
        .control (controlName rest) :: tokensFrom (controlName rest).length rest
      else .char c :: tokensFrom 0 rest

def tokens (cs : List Char) : List Token := tokensFrom 0 cs

private theorem tokensFrom_append (a b : List Char) : tokensFrom a.length (a ++ b) = tokens b := by
  induction a with
  | nil => rfl
  | cons c a ih => exact ih

theorem tokens_char {c : Char} (hc : c ≠ '\\') (cs : List Char) :
    tokens (c :: cs) = .char c :: tokens cs := by
  simp only [tokens, tokensFrom, if_neg hc]

theorem tokens_chars {a : List Char} (ha : '\\' ∉ a) (cs : List Char) :
    tokens (a ++ cs) = a.map .char ++ tokens cs := by
  induction a with
  | nil => rfl
  | cons c a ih =>
    rw [List.mem_cons, not_or] at ha
    rw [List.cons_append, tokens_char (Ne.symm ha.1), ih ha.2]
    rfl

private theorem tokens_control {name cs : List Char} (h : controlName (name ++ cs) = name) :
    tokens ('\\' :: (name ++ cs)) = .control name :: tokens cs := by
  have hs : tokens ('\\' :: (name ++ cs)) = .control (controlName (name ++ cs)) ::
      tokensFrom (controlName (name ++ cs)).length (name ++ cs) := rfl
  rw [hs, h, tokensFrom_append]

theorem tokens_symbol {c : Char} (hc : c.isAlpha = false) (cs : List Char) :
    tokens ('\\' :: c :: cs) = .control [c] :: tokens cs := by
  have h : controlName ([c] ++ cs) = [c] := by
    simp [controlName, hc]
  exact tokens_control h

theorem tokens_word {name : List Char} (hne : name ≠ []) (hn : name.all Char.isAlpha = true)
    {c : Char} (hc : c.isAlpha = false) (cs : List Char) :
    tokens ('\\' :: (name ++ c :: cs)) = .control name :: tokens (c :: cs) := by
  have ht : (name ++ c :: cs).takeWhile Char.isAlpha = name := by
    rw [List.takeWhile_append_of_pos (List.all_eq_true.mp hn),
      List.takeWhile_cons_of_neg (by simp [hc]), List.append_nil]
  have h : controlName (name ++ c :: cs) = name := by
    rw [controlName, ht]
    split
    · exact absurd rfl hne
    · rfl
  exact tokens_control h

inductive Command
  | opens (environment : String)
  | item
  | closes (environment : String)
  deriving DecidableEq, Repr

def plainPrefix : List Token → List Char
  | .char c :: rest => if c = '}' then [] else c :: plainPrefix rest
  | _ => []

def argument : List Token → String
  | .char c :: rest => if c = '{' then String.ofList (plainPrefix rest) else ""
  | _ => ""

def command? (name : List Char) (rest : List Token) : Option Command :=
  if name = "item".toList then some .item
  else if name = "begin".toList then some (.opens (argument rest))
  else if name = "end".toList then some (.closes (argument rest))
  else none

def groupsAfter (groups : Nat) (c : Char) : Nat :=
  if c = '{' then groups + 1 else if c = '}' then groups - 1 else groups

/-- The list commands, each with the number of groups that are open around it. -/
def commandsWithin (groups : Nat) : List Token → List (Nat × Command)
  | [] => []
  | .char c :: rest => commandsWithin (groupsAfter groups c) rest
  | .control name :: rest =>
    ((command? name rest).map (groups, ·)).toList ++ commandsWithin groups rest

def commands (ts : List Token) : List Command := (commandsWithin 0 ts).map Prod.snd

/-- The number of open groups behind some tokens; none where a group is closed that is not open. -/
def groupsBehind (groups : Nat) : List Token → Option Nat
  | [] => some groups
  | .char c :: rest =>
    if c = '}' && groups = 0 then none else groupsBehind (groupsAfter groups c) rest
  | .control _ :: rest => groupsBehind groups rest

/-- Each group that is opened is closed, and none is closed that is not open. -/
def Balanced (ts : List Token) : Prop := groupsBehind 0 ts = some 0

instance (ts : List Token) : Decidable (Balanced ts) :=
  inferInstanceAs (Decidable (groupsBehind 0 ts = some 0))

/-- The characters that do not stand for themselves in a text. -/
def reserved : List Char := ['\\', '{', '}', '%']

def symbols : List Char := ['{', '}', '$', '%', '&', '#', '_']

/-- The names that may stand behind a backslash where the plain words are `words`. -/
def vocabulary (words : List String) : List (List Char) :=
  ["begin", "end", "item"].map String.toList ++ words.map String.toList ++ symbols.map ([·])

theorem command_mem_vocabulary {name : List Char} {words : List String}
    (hn : name ∈ ["begin", "end", "item"].map String.toList) : name ∈ vocabulary words :=
  List.mem_append_left _ (List.mem_append_left _ hn)

/-- What some tokens are for a reader that comes with `d` open groups and leaves with `e`: the list
commands `es`, all outside groups, and control sequences of the vocabulary; nothing is hidden behind
a comment sign. -/
structure Reads (words : List String) (d : Nat) (ts : List Token) (es : List Command) (e : Nat) :
    Prop where
  commands : commandsWithin d ts = es.map (0, ·)
  groups : groupsBehind d ts = some e
  visible : .char '%' ∉ ts
  named : ∀ name, .control name ∈ ts → name ∈ vocabulary words

variable {words : List String} {d e : Nat} {ts : List Token} {es : List Command}

theorem Reads.commands_eq {words : List String} {e : Nat} {ts : List Token} {es : List Command}
    (h : Reads words 0 ts es e) : Tex.commands ts = es := by
  rw [Tex.commands, h.commands, List.map_map]
  exact List.map_id es

theorem Reads.outside_groups {words : List String} {e : Nat} {ts : List Token}
    {es : List Command} (h : Reads words 0 ts es e) : ∀ c ∈ commandsWithin 0 ts, c.1 = 0 := by
  intro c hc
  rw [h.commands] at hc
  obtain ⟨x, _, rfl⟩ := List.mem_map.mp hc
  rfl

theorem Reads.nil (d : Nat) : Reads words d [] [] d where
  commands := rfl
  groups := rfl
  visible := List.not_mem_nil
  named _ h := absurd h List.not_mem_nil

theorem Reads.cons_char {c : Char} (hc : c ≠ '%') (hd : d = 0 → c ≠ '}')
    (h : Reads words (groupsAfter d c) ts es e) : Reads words d (.char c :: ts) es e where
  commands := h.commands
  groups := by
    have hn : ¬(c = '}' ∧ d = 0) := fun hn => hd hn.2 hn.1
    simpa [groupsBehind, hn] using h.groups
  visible := by
    rw [List.mem_cons, not_or]
    exact ⟨fun he => hc (Token.char.inj he).symm, h.visible⟩
  named name hm := by
    rcases List.mem_cons.mp hm with he | hm
    · exact Token.noConfusion he
    · exact h.named name hm

theorem Reads.cons_control {name : List Char} (hn : name ∈ vocabulary words)
    (hd : ∀ c, command? name ts = some c → d = 0) (h : Reads words d ts es e) :
    Reads words d (.control name :: ts) ((command? name ts).toList ++ es) e where
  commands := by
    rw [commandsWithin, h.commands, List.map_append]
    cases hc : command? name ts with
    | none => rfl
    | some c =>
      rw [hd c hc]
      rfl
  groups := h.groups
  visible := by simpa using h.visible
  named other hm := by
    rcases List.mem_cons.mp hm with he | hm
    · exact Token.control.inj he ▸ hn
    · exact h.named other hm

private theorem not_mem_reserved_of_isAlpha {c : Char} (hc : c.isAlpha = true) : c ∉ reserved := by
  intro hm
  have hr : reserved.all (fun x => !x.isAlpha) = true := by decide
  have hx := List.all_eq_true.mp hr c hm
  simp [hc] at hx

theorem Reads.chars {a : List Char} (ha : ∀ c ∈ a, c ∉ reserved) (h : Reads words d ts es e) :
    Reads words d (a.map .char ++ ts) es e := by
  induction a with
  | nil => exact h
  | cons c a ih =>
    have hc : c ∉ reserved := ha c List.mem_cons_self
    have hg : groupsAfter d c = d := by
      have hb : c ≠ '{' ∧ c ≠ '}' := by
        constructor <;> rintro rfl <;> exact hc (by decide)
      simp [groupsAfter, hb]
    have hr := ih fun x hx => ha x (List.mem_cons_of_mem c hx)
    refine Reads.cons_char ?_ ?_ (by rw [hg]; exact hr)
    · rintro rfl
      exact hc (by decide)
    · rintro - rfl
      exact hc (by decide)

theorem Reads.group {name : List Char} (hn : name.all Char.isAlpha = true)
    (h : Reads words d ts es e) :
    Reads words d (.char '{' :: (name.map .char ++ .char '}' :: ts)) es e := by
  have hr : ∀ c ∈ name, c ∉ reserved := fun c hc =>
    not_mem_reserved_of_isAlpha (List.all_eq_true.mp hn c hc)
  have hclose : Reads words (d + 1) (.char '}' :: ts) es e := by
    refine Reads.cons_char (by decide) (fun hd => absurd hd (Nat.succ_ne_zero d)) ?_
    exact h
  exact Reads.cons_char (by decide) (fun _ => by decide) (hclose.chars hr)

theorem argument_group {name : List Char} (hn : name.all Char.isAlpha = true) (ts : List Token) :
    argument (.char '{' :: (name.map .char ++ .char '}' :: ts)) = String.ofList name := by
  have hp : plainPrefix (name.map .char ++ .char '}' :: ts) = name := by
    induction name with
    | nil => rfl
    | cons c name ih =>
      rw [List.all_cons, Bool.and_eq_true] at hn
      have hc : c ≠ '}' := by
        rintro rfl
        exact absurd hn.1 (by decide)
      rw [List.map_cons, List.cons_append, plainPrefix, if_neg hc, ih hn.2]
  simp only [argument, if_pos, hp]

theorem tokens_environment {word name : List Char} (hne : word ≠ [])
    (hw : word.all Char.isAlpha = true) (hn : name.all Char.isAlpha = true) (cs : List Char) :
    tokens ('\\' :: word ++ ['{'] ++ name ++ ['}'] ++ cs) =
      .control word :: .char '{' :: (name.map .char ++ .char '}' :: tokens cs) := by
  have hb : '\\' ∉ name := fun hm => absurd (List.all_eq_true.mp hn _ hm) (by decide)
  have hs : '\\' :: word ++ ['{'] ++ name ++ ['}'] ++ cs =
      '\\' :: (word ++ '{' :: (name ++ '}' :: cs)) := by simp
  rw [hs, tokens_word hne hw (by decide), tokens_char (by decide), tokens_chars hb,
    tokens_char (by decide)]

private theorem command?_eq_none {name : List Char}
    (hn : name ∉ ["begin", "end", "item"].map String.toList) (ts : List Token) :
    command? name ts = none := by
  simp only [List.map_cons, List.map_nil, List.mem_cons, List.not_mem_nil, or_false, not_or] at hn
  simp only [command?, if_neg hn.1, if_neg hn.2.1, if_neg hn.2.2]

theorem Reads.cons_plain {name : List Char} (hn : name ∈ vocabulary words)
    (hp : name ∉ ["begin", "end", "item"].map String.toList) (h : Reads words d ts es e) :
    Reads words d (.control name :: ts) es e := by
  have hc := command?_eq_none hp ts
  have hr := h.cons_control hn fun c hs => by simp [hc] at hs
  rw [hc] at hr
  exact hr

end RichText.Tex
