import Mathlib.Data.List.Chain
import Mathlib.Data.List.Perm.Subperm
import Mathlib.Logic.Relation
import RichText.Proofs.Yaml.Composing
import RichText.Proofs.Yaml.Scanning
import RichText.Yaml.Reader

/-!
Which documents have no data. Merging changes entries of mappings and turns default keys into text,
so that a scalar that is found not to be of its kind has been so from the beginning, and default
keys that go round have done so.
-/

set_option autoImplicit false
set_option relaxedAutoImplicit false

namespace RichText.Yaml

namespace Graph

variable {g h k : Graph} {n : NodeId}

def IsMapping (g : Graph) (n : NodeId) : Prop := ∃ entries, g.body n = .mapping entries

/-- A mapping that stands for a scalar does so with what is under one of its default keys. -/
def Defaults (g : Graph) (n m : NodeId) : Prop :=
  ∃ k, (k, m) ∈ g.entries n ∧ g.tag k = Tag.core "value"

def Settled (g : Graph) (entries : Entries) : Prop :=
  ∀ e ∈ entries, g.tag e.1 ≠ Tag.core "value"

/-- A graph and what merging makes of it: scalars and mappings stay what they are, a tag that is
changed is that of text from then on, and no mapping gets a default key. -/
structure MergesInto (g h : Graph) : Prop where
  tag (n : NodeId) : h.tag n = g.tag n ∨ h.tag n = Tag.core "str"
  scalar (n : NodeId) (text : String) : h.body n = .scalar text → g.body n = .scalar text
  mapping (n : NodeId) : h.IsMapping n ↔ g.IsMapping n
  defaults (n m : NodeId) : h.Defaults n m → g.Defaults n m

theorem MergesInto.refl (g : Graph) : g.MergesInto g :=
  ⟨fun _ => .inl rfl, fun _ _ => id, fun _ => .rfl, fun _ _ => id⟩

theorem MergesInto.trans (hgh : g.MergesInto h) (hhk : h.MergesInto k) : g.MergesInto k where
  tag n := by
    rcases hhk.tag n with he | he
    · rw [he]
      exact hgh.tag n
    · exact .inr he
  scalar n text hk := hgh.scalar n text (hhk.scalar n text hk)
  mapping n := (hhk.mapping n).trans (hgh.mapping n)
  defaults n m hk := hgh.defaults n m (hhk.defaults n m hk)

private theorem tag_eq_value (hn : h.tag n = g.tag n ∨ h.tag n = Tag.core "str")
    (hvalue : h.tag n = Tag.core "value") : g.tag n = Tag.core "value" := by
  rcases hn with he | he
  · rw [← he, hvalue]
  · rw [hvalue] at he
    exact absurd he (by decide)

private theorem Settled.keep {entries : Entries} (hgh : g.MergesInto h)
    (hsettled : g.Settled entries) : h.Settled entries :=
  fun e he hvalue => hsettled e he (tag_eq_value (hgh.tag e.1) hvalue)

private theorem tag_setBody (g : Graph) (n : NodeId) (body : Body) (m : NodeId) :
    (g.setBody n body).tag m = g.tag m := by
  simp only [tag, setBody, Array.getElem?_modify]
  split
  · cases g.nodes[m]? <;> rfl
  · rfl

private theorem body_setBody_of_ne (g : Graph) {m : NodeId} (h : n ≠ m) (body : Body) :
    (g.setBody n body).body m = g.body m := by
  simp only [Graph.body, setBody, Array.getElem?_modify, if_neg h]

private theorem body_setBody_self (h : g.IsMapping n) (body : Body) :
    (g.setBody n body).body n = body := by
  obtain ⟨entries, he⟩ := h
  rw [Graph.body] at he
  simp only [Graph.body, setBody, Array.getElem?_modify, if_true]
  cases hn : g.nodes[n]? with
  | none =>
    rw [hn] at he
    cases he
  | some node => rfl

private theorem entries_setBody_self (h : g.IsMapping n) (entries : Entries) :
    (g.setBody n (.mapping entries)).entries n = entries := by
  rw [Graph.entries, body_setBody_self h]

private theorem mergesInto_setBody (h : g.IsMapping n) {entries : Entries}
    (hdefaults : ∀ e ∈ entries, g.tag e.1 = Tag.core "value" → e ∈ g.entries n) :
    g.MergesInto (g.setBody n (.mapping entries)) where
  tag m := .inl (tag_setBody g n _ m)
  scalar m text hm := by
    by_cases hnm : n = m
    · subst hnm
      rw [body_setBody_self h] at hm
      cases hm
    · rwa [body_setBody_of_ne g hnm] at hm
  mapping m := by
    by_cases hnm : n = m
    · subst hnm
      exact ⟨fun _ => h, fun _ => ⟨entries, body_setBody_self h _⟩⟩
    · rw [IsMapping, IsMapping, body_setBody_of_ne g hnm]
  defaults m below := by
    rintro ⟨k, hk, hvalue⟩
    rw [tag_setBody] at hvalue
    refine ⟨k, ?_, hvalue⟩
    by_cases hnm : n = m
    · subst hnm
      rw [entries_setBody_self h] at hk
      exact hdefaults _ hk hvalue
    · rwa [Graph.entries, body_setBody_of_ne g hnm] at hk

private theorem body_setTag (g : Graph) (n : NodeId) (tag : String) (m : NodeId) :
    (g.setTag n tag).body m = g.body m := by
  simp only [Graph.body, setTag, Array.getElem?_modify]
  split
  · cases g.nodes[m]? <;> rfl
  · rfl

private theorem tag_setTag (g : Graph) (n m : NodeId) :
    (g.setTag n (Tag.core "str")).tag m = g.tag m ∨
      (g.setTag n (Tag.core "str")).tag m = Tag.core "str" := by
  simp only [Graph.tag, setTag, Array.getElem?_modify]
  split
  · cases g.nodes[m]? with
    | none => exact .inl rfl
    | some node => exact .inr rfl
  · exact .inl rfl

private theorem tag_setTag_self {tag : String} (h : g.tag n ≠ "") :
    (g.setTag n tag).tag n = tag := by
  rw [Graph.tag] at h
  simp only [Graph.tag, setTag, Array.getElem?_modify, if_true]
  cases hn : g.nodes[n]? with
  | none =>
    rw [hn] at h
    exact absurd rfl h
  | some node => rfl

private theorem mergesInto_setTag (g : Graph) (n : NodeId) :
    g.MergesInto (g.setTag n (Tag.core "str")) where
  tag m := tag_setTag g n m
  scalar m text hm := by rwa [body_setTag] at hm
  mapping m := by rw [IsMapping, IsMapping, body_setTag]
  defaults m below := by
    rintro ⟨k, hk, hvalue⟩
    rw [Graph.entries, body_setTag] at hk
    exact ⟨k, hk, tag_eq_value (tag_setTag g n k) hvalue⟩

private theorem settleDefaults_cons (g : Graph) (e : NodeId × NodeId) (entries : Entries) :
    g.settleDefaults (e :: entries) =
      (if g.tag e.1 = Tag.core "value" then g.setTag e.1 (Tag.core "str") else g).settleDefaults
        entries := rfl

private theorem mergesInto_settleDefaults (g : Graph) (entries : Entries) :
    g.MergesInto (g.settleDefaults entries) := by
  induction entries generalizing g with
  | nil => exact .refl g
  | cons e entries ih =>
    rw [settleDefaults_cons]
    refine MergesInto.trans ?_ (ih _)
    split
    · exact mergesInto_setTag g e.1
    · exact .refl g

private theorem entries_settleDefaults (g : Graph) (entries : Entries) (n : NodeId) :
    (g.settleDefaults entries).entries n = g.entries n := by
  induction entries generalizing g with
  | nil => rfl
  | cons e entries ih =>
    rw [settleDefaults_cons, ih]
    split
    · rw [Graph.entries, body_setTag, ← Graph.entries]
    · rfl

private theorem settled_settleDefaults (g : Graph) (entries : Entries) :
    (g.settleDefaults entries).Settled entries := by
  induction entries generalizing g with
  | nil => nofun
  | cons e entries ih =>
    rw [settleDefaults_cons]
    intro d hd
    rcases List.mem_cons.mp hd with rfl | hd
    · intro hvalue
      have hbefore := tag_eq_value ((mergesInto_settleDefaults _ entries).tag d.1) hvalue
      split at hbefore
      · next hdefault =>
        rw [tag_setTag_self (by rw [hdefault]; decide)] at hbefore
        exact absurd hbefore (by decide)
      · contradiction
    · exact ih _ d hd

private theorem mem_of_takeMerge {entries rest : Entries} {source : NodeId}
    (h : g.takeMerge entries = some (source, rest)) {e : NodeId × NodeId} (he : e ∈ rest) :
    e ∈ entries := by
  induction entries generalizing rest with
  | nil => cases h
  | cons d entries ih =>
    rw [takeMerge] at h
    split at h
    · obtain ⟨-, rfl⟩ := Prod.mk.inj (Option.some.inj h)
      exact List.mem_cons_of_mem _ he
    · obtain ⟨⟨found, others⟩, hfound, hrest⟩ := Option.map_eq_some_iff.mp h
      obtain ⟨rfl, rfl⟩ := Prod.mk.inj hrest
      rcases List.mem_cons.mp he with rfl | he
      · exact List.mem_cons_self
      · exact List.mem_cons_of_mem _ (ih hfound he)

/-- The outcome of merging on the way: with a graph that merging may make, and whatever else then
holds, or for a malformed text. -/
def Merged {α : Type} (g : Graph) (graph : α → Graph) (post : α → Prop) (r : Except Fault α) :
    Prop :=
  (∀ a, r = .ok a → g.MergesInto (graph a) ∧ post a) ∧ ∀ e, r = .error e → e = .malformed

section Merged

variable {α β : Type} {graph : α → Graph} {other : β → Graph} {post : α → Prop}
  {next : β → Prop} {r : Except Fault α} {f : α → Except Fault β}

private theorem Merged.ok {a : α} (h : g.MergesInto (graph a)) (ha : post a) :
    g.Merged graph post (.ok a) := by
  refine ⟨?_, nofun⟩
  intro b hb
  exact Except.ok.inj hb ▸ ⟨h, ha⟩

private theorem Merged.malformed (g : Graph) (graph : α → Graph) (post : α → Prop) :
    g.Merged graph post (.error .malformed) :=
  ⟨nofun, fun _ he => (Except.error.inj he).symm⟩

private theorem Merged.after (hgh : g.MergesInto h) (hr : h.Merged graph post r) :
    g.Merged graph post r :=
  ⟨fun a ha => ⟨hgh.trans (hr.1 a ha).1, (hr.1 a ha).2⟩, hr.2⟩

private theorem Merged.bind (hr : g.Merged graph post r)
    (hf : ∀ a, g.MergesInto (graph a) → post a → (graph a).Merged other next (f a)) :
    g.Merged other next (r >>= f) := by
  cases r with
  | error e => exact ⟨nofun, fun d hd => Except.error.inj hd ▸ hr.2 e rfl⟩
  | ok a =>
    obtain ⟨hmerges, hpost⟩ := hr.1 a rfl
    exact .after hmerges (hf a hmerges hpost)

private theorem Merged.foldlM {ι : Type} (graph : α → Graph) (post : α → Prop)
    {step : α → ι → Except Fault α}
    (h : ∀ a i, post a → (graph a).Merged graph post (step a i)) (is : List ι) {a : α}
    (ha : post a) : (graph a).Merged graph post (is.foldlM step a) := by
  induction is generalizing a with
  | nil => exact .ok (.refl _) ha
  | cons i is ih =>
    rw [List.foldlM_cons]
    exact (h a i ha).bind fun b _ hb => ih hb

end Merged

private theorem settled_append {entries others : Entries} (h : g.Settled entries)
    (ho : g.Settled others) : g.Settled (entries ++ others) :=
  fun e he => (List.mem_append.mp he).elim (h e) (ho e)

/-- A mapping without merge keys gets what it inherits in front of its own entries. -/
private theorem merged_inherited (hn : g.IsMapping n) {inherited : Entries}
    (hinherited : g.Settled inherited) :
    g.Merged id (fun h => h.Settled (h.entries n)) (.ok (
      let g := g.settleDefaults (g.entries n)
      if inherited.isEmpty then g else g.setBody n (.mapping (inherited ++ g.entries n)))) := by
  have hmerges := mergesInto_settleDefaults g (g.entries n)
  have hown : (g.settleDefaults (g.entries n)).Settled
      ((g.settleDefaults (g.entries n)).entries n) := by
    rw [entries_settleDefaults]
    exact settled_settleDefaults g _
  dsimp only
  split
  · exact .ok hmerges hown
  · have hn := (hmerges.mapping n).mpr hn
    have hall := settled_append (hinherited.keep hmerges) hown
    have hset := mergesInto_setBody hn fun e he hvalue => absurd hvalue (hall e he)
    refine .ok (hmerges.trans hset) ?_
    rw [entries_setBody_self hn]
    exact hall.keep hset

/-- What a mapping inherits has been settled by then, so that no default key moves. -/
private theorem merged_mergeFrom (g : Graph) (n : NodeId) (inherited : Entries) (steps : Nat)
    (hn : g.IsMapping n) (hinherited : g.Settled inherited) :
    g.Merged id (fun h => h.Settled (h.entries n)) (g.mergeFrom n inherited steps) := by
  induction steps generalizing g n inherited with
  | zero => exact .malformed g _ _
  | succ steps ih =>
    rw [mergeFrom]
    split
    · exact merged_inherited hn hinherited
    · next source rest hrest =>
      have hset := mergesInto_setBody hn fun e he _ => mem_of_takeMerge hrest he
      have hn := (hset.mapping n).mpr hn
      have hinherited := hinherited.keep hset
      refine .after hset ?_
      cases hs : (g.setBody n (.mapping rest)).body source with
      | scalar text =>
        simp only [hs]
        exact .malformed _ _ _
      | mapping entries =>
        simp only [hs]
        exact (ih _ source [] ⟨_, hs⟩ nofun).bind fun k hk hsource =>
          ih k n _ ((hk.mapping n).mpr hn) (settled_append (hinherited.keep hk) hsource)
      | sequence items =>
        simp only [hs]
        have hnothing : (g.setBody n (.mapping rest)).Settled [] := nofun
        refine Merged.bind (Merged.foldlM Prod.fst (fun a => a.1.Settled a.2)
          (fun a item ha => ?_) items hnothing) fun p hp hfound =>
          ih p.1 n _ ((hp.mapping n).mpr hn) (settled_append (hinherited.keep hp) hfound)
        split
        · next hi =>
          exact (ih a.1 item [] ⟨_, hi⟩ nofun).bind fun k hk hitem =>
            .ok (.refl k) (settled_append hitem (ha.keep hk))
        · exact .malformed _ _ _

private theorem merged_merge (hn : g.IsMapping n) :
    g.Merged id (fun h => h.Settled (h.entries n)) (g.merge n) :=
  merged_mergeFrom g n [] _ hn nofun

/-- Some node is said to be of a kind that it has no value of: its text is none of that kind, or the
default keys that it leads to go round. A mapping stands for a text with what is under a default
key, but never for a time. -/
def Misfits (g : Graph) (f : ValueFault) : Prop :=
  (f = .endless ∧ ∃ n, Relation.TransGen g.Defaults n n) ∨
  ∃ n kind, ScalarKind.ofTag? (g.tag n) = some kind ∧
    ((∃ text, g.body n = .scalar text ∧ kind.value text = .error (.value f)) ∨
      g.IsMapping n ∧ (kind = .timestamp ∧ f = .timestampNotText ∨
        ∃ m text, g.body m = .scalar text ∧ kind.value text = .error (.value f)))

theorem Misfits.back {f : ValueFault} (hgh : g.MergesInto h) (hf : h.Misfits f) : g.Misfits f := by
  rcases hf with ⟨hendless, n, hring⟩ | ⟨n, kind, hkind, hmisfit⟩
  · exact .inl ⟨hendless, n, Relation.TransGen.mono hgh.defaults n n hring⟩
  have hg : ScalarKind.ofTag? (g.tag n) = some kind := by
    rcases hgh.tag n with he | he
    · rwa [← he]
    · -- whatever is a text fits
      rw [he] at hkind
      obtain rfl : ScalarKind.text = kind := Option.some.inj hkind
      rcases hmisfit with ⟨_, _, hvalue⟩ | ⟨_, ⟨htime, _⟩ | ⟨_, _, _, hvalue⟩⟩
      · cases hvalue
      · cases htime
      · cases hvalue
  refine .inr ⟨n, kind, hg, ?_⟩
  rcases hmisfit with ⟨text, hbody, hvalue⟩ | ⟨hmapping, htime | ⟨m, text, hbody, hvalue⟩⟩
  · exact .inl ⟨text, hgh.scalar n text hbody, hvalue⟩
  · exact .inr ⟨(hgh.mapping n).mp hmapping, .inl htime⟩
  · exact .inr ⟨(hgh.mapping n).mp hmapping, .inr ⟨m, text, hgh.scalar m text hbody, hvalue⟩⟩

private theorem exists_scalar_of_textWithin {steps : Nat} {text : String}
    (h : g.textWithin n steps = .ok text) : ∃ m, g.body m = .scalar text := by
  induction steps generalizing n with
  | zero => cases h
  | succ steps ih =>
    rw [textWithin] at h
    split at h
    · next he => exact ⟨n, Except.ok.inj h ▸ he⟩
    · cases h
    · split at h
      · cases h
      · exact ih h

private theorem lt_size_of_defaults {m : NodeId} (h : g.Defaults n m) : n < g.size := by
  obtain ⟨k, hk, -⟩ := h
  by_contra hn
  rw [Graph.entries, Graph.body, Array.getElem?_eq_none (Nat.le_of_not_lt hn)] at hk
  cases hk

private theorem exists_chain_of_textWithin {steps : Nat} {f : ValueFault}
    (h : g.textWithin n steps = .error (.value f)) :
    f = .endless ∧ ∃ path : List NodeId, path.length = steps ∧ (∀ m ∈ path.head?, m = n) ∧
      (∀ m ∈ path, m < g.size) ∧ path.IsChain g.Defaults := by
  -- every node of the chain has a default key, so that it is one of the graph
  induction steps generalizing n with
  | zero => exact ⟨(Fault.value.inj (Except.error.inj h)).symm, [], rfl, nofun, nofun, .nil⟩
  | succ steps ih =>
    rw [textWithin] at h
    split at h
    · cases h
    · cases h
    · next entries hbody =>
      split at h
      · cases h
      · next e he =>
        obtain ⟨hf, path, hlength, hhead, hsize, hchain⟩ := ih h
        have hdefaults : g.Defaults n e.2 := by
          refine ⟨e.1, ?_, by simpa using List.find?_some he⟩
          rw [Graph.entries, hbody]
          exact List.mem_of_find?_eq_some he
        refine ⟨hf, n :: path, by rw [List.length_cons, hlength], by simp, ?_, ?_⟩
        · intro m hm
          rcases List.mem_cons.mp hm with rfl | hm
          · exact lt_size_of_defaults hdefaults
          · exact hsize m hm
        · refine List.isChain_cons.mpr ⟨fun m hm => ?_, hchain⟩
          rwa [hhead m hm]

private theorem exists_ring_of_text {f : ValueFault} (h : g.text n = .error (.value f)) :
    f = .endless ∧ ∃ m, Relation.TransGen g.Defaults m m := by
  obtain ⟨hf, path, hlength, -, hsize, hchain⟩ := exists_chain_of_textWithin h
  refine ⟨hf, ?_⟩
  by_contra hnone
  -- without a ring the chain comes to no node twice, and there are not as many nodes
  have hpairwise : path.Pairwise (Relation.TransGen g.Defaults) :=
    List.isChain_iff_pairwise.mp (hchain.imp fun _ _ => .single)
  have hnodup : path.Nodup := by
    refine hpairwise.imp ?_
    rintro a _ hab rfl
    exact hnone ⟨a, hab⟩
  have hsubset : path ⊆ List.range g.size := fun m hm => List.mem_range.mpr (hsize m hm)
  have hbound := (hnodup.subperm hsubset).length_le
  rw [List.length_range, hlength] at hbound
  omega

private theorem misfits_of_scalar {kind : ScalarKind} {f : ValueFault}
    (hkind : ScalarKind.ofTag? (g.tag n) = some kind)
    (h : g.scalar n kind = .error (.value f)) : g.Misfits f := by
  rw [Graph.scalar] at h
  split at h
  · next fault ht =>
    obtain rfl := Except.error.inj h
    exact .inl (exists_ring_of_text ht)
  · next text ht =>
    refine .inr ⟨n, kind, hkind, ?_⟩
    cases hbody : g.body n with
    | scalar own =>
      refine .inl ⟨own, rfl, ?_⟩
      rw [Graph.text, textWithin, hbody] at ht
      obtain rfl := Except.ok.inj ht
      rwa [isScalar, hbody, if_neg (by simp)] at h
    | sequence items =>
      rw [Graph.text, textWithin, hbody] at ht
      cases ht
    | mapping entries =>
      refine .inr ⟨⟨entries, hbody⟩, ?_⟩
      split at h
      · next htime =>
        have hkind : kind = .timestamp := by simpa using (Bool.and_eq_true_iff.mp htime).1
        exact .inl ⟨hkind, (Fault.value.inj (Except.error.inj h)).symm⟩
      · obtain ⟨m, hm⟩ := exists_scalar_of_textWithin ht
        exact .inr ⟨m, text, hm, h⟩

end Graph

/-- Making data merges the graph, and every fault of a value is that of a node. -/
def Building.frame : Frame Building where
  follows b c := b.graph.MergesInto c.graph
  faults b e := ∀ f, e = .value f → b.graph.Misfits f
  refl b := .refl b.graph
  trans := .trans
  back h hf f he := .back h (hf f he)
  malformed _ := nofun

open Building (frame)

namespace Build

private theorem holds_make (n : NodeId) : frame.Holds (make n) := by
  refine .get_bind fun b => ?_
  cases hkind : ScalarKind.ofTag? (b.graph.tag n) with
  | some kind =>
    simp only [hkind]
    cases hs : b.graph.scalar n kind with
    | ok s => exact .pure b _
    | error e =>
      refine .throw fun f he => ?_
      subst he
      exact Graph.misfits_of_scalar hkind hs
  | none =>
    cases hcollection : CollectionKind.ofTag? (b.graph.tag n) with
    | some kind =>
      simp only [hkind, hcollection]
      exact (Frame.HoldsAt.set (Graph.MergesInto.refl b.graph)).bind fun _ c _ => .pure c _
    | none =>
      simp only [hkind, hcollection]
      exact .throw nofun

private theorem holds_item (n : NodeId) : frame.Holds (item n) := by
  refine .get_bind fun b => ?_
  split
  · exact .pure b _
  · have hnoted (i : Item) : frame.Holds (do
        modify fun b => { b with made := b.made.modify n fun _ => some i }
        pure i) := (Frame.Holds.update fun b => Graph.MergesInto.refl b.graph).bind fun _ => .pure i
    exact (holds_make n).bind hnoted b

private theorem holds_nanOrigin (n : NodeId) :
    frame.Holds (nanOrigin n) := .get_bind fun b => .pure b _

private theorem holds_addEntry (acc : List Entry) (e : NodeId × NodeId) :
    frame.Holds (entries.addEntry acc e) := by
  refine (holds_item e.1).bind fun i => ?_
  split
  · exact (holds_nanOrigin e.1).bind fun _ => (holds_item e.2).bind fun _ => .pure _
  · exact .malformed

private theorem holds_entries (n : NodeId) : frame.Holds (entries n) := by
  refine .get_bind fun b => ?_
  split
  · next es he =>
    have hmerged := Graph.merged_merge ⟨es, he⟩
    split
    · next e herror =>
      obtain rfl := hmerged.2 e herror
      exact .throw nofun
    · next graph hgraph =>
      have hset : frame.follows b { b with graph } := (hmerged.1 graph hgraph).1
      exact (Frame.HoldsAt.set hset).bind fun _ c _ =>
        ((Frame.Holds.foldlM holds_addEntry _ []).bind fun _ => .pure _) c
  · exact .throw nofun

private theorem holds_pair (n : NodeId) : frame.Holds (pair n) := by
  refine .get_bind fun b => ?_
  split
  · next k v _ => exact ((holds_item k).bind fun _ => (holds_item v).bind fun _ => .pure _) b
  · exact .throw nofun

private theorem holds_items (n : NodeId) : frame.Holds (items n) := by
  refine .get_bind fun b => ?_
  split
  · exact .pure b _
  · exact .throw nofun

private theorem holds_holding (kind : CollectionKind) (n : NodeId) :
    frame.Holds (holding kind n) := by
  have hpairs : frame.Holds (do
      let ps ← (← items n).mapM pair
      pure (.pairs ps : Holding)) :=
    (holds_items n).bind fun ns => (Frame.Holds.mapM holds_pair ns).bind fun _ => .pure _
  cases kind with
  | sequence =>
    exact (holds_items n).bind fun ns => (Frame.Holds.mapM holds_item ns).bind fun _ => .pure _
  | orderedMapping | pairs => exact hpairs
  | mapping | set => exact (holds_entries n).bind fun _ => .pure _

private theorem holds_fill (steps : Nat) : frame.Holds (fill steps) := by
  induction steps with
  | zero => exact .pure ()
  | succ steps ih =>
    rw [fill]
    refine .get_bind fun b => ?_
    split
    · exact .pure b ()
    · next kind n _ =>
      have hfilled (h : Holding) : frame.Holds (do
          modify fun b => { b with holdings := b.holdings.push h }
          fill steps) :=
        (Frame.Holds.update fun b => Graph.MergesInto.refl b.graph).bind fun _ => ih
      exact (holds_holding kind n).bind hfilled b

end Build

private theorem Document.misfits_of_value {d : Document} {f : ValueFault}
    (h : d.value = .error (.value f)) : d.graph.Misfits f := by
  have hholds : frame.Holds (do
      let root ← Build.item d.root
      Build.fill d.graph.size
      pure root) :=
    (Build.holds_item d.root).bind fun root => (Build.holds_fill _).bind fun _ => .pure root
  simp only [Document.value] at h
  exact (hholds _).2 _ (eq_error_of_bind_ok h) f rfl

/-- A text ends in the fault of a value for an escape, or for a node of its document. -/
theorem misfits_of_parse {text : String} {f : ValueFault} (h : parse text = .error (.value f)) :
    (Tokens.ofText text).fault = some (.value f) ∧ (f = .codePoint ∨ f = .hugeCodePoint) ∨
      ∃ d, Document.ofTokens (Tokens.ofText text) = .ok (some d) ∧ d.graph.Misfits f := by
  rw [parse] at h
  cases hd : Document.ofTokens (Tokens.ofText text) with
  | error e =>
    rw [hd] at h
    obtain rfl := Except.error.inj h
    rcases Document.fault_of_ofTokens hd with he | hfault
    · cases he
    · rcases Tokens.isLexical_of_fault hfault with he | he | he
      · cases he
      · exact .inl ⟨hfault, .inl (Fault.value.inj he)⟩
      · exact .inl ⟨hfault, .inr (Fault.value.inj he)⟩
  | ok root =>
    rw [hd] at h
    cases root with
    | none => cases h
    | some d => exact .inr ⟨d, rfl, Document.misfits_of_value h⟩

end RichText.Yaml
