import RollupAudit.Proofs.Yaml.Tokens
import RollupAudit.Yaml.Reader

/-!
# Why a text is no document

The tokens of a text spell a tree, and the tree denotes a value. Tokens that spell no tree are malformed,
or they refer to a node from inside it, or they broke off. A tree that denotes no value is malformed, or
it has a scalar whose text does not denote what its tag says: a flag, a number or a time. So whatever else
is wrong with a text is a fault of form.

**Results.**
* `failsAtEnd_readOnly`: the grammar of documents adds nothing but faults of form.
* `Node.explains_denote`: a tree without a value is malformed or has a misfit.
* `explains_read`: what is at fault with a text that is not malformed.
-/

namespace RollupAudit
namespace Yaml

/-! ## Trees -/

variable {α β : Type}

/-- That a reading fails, if it does, by the form of the document or with what broke the tokens off, and
that it keeps the latter. -/
structure FailsAtEnd (x : Reads α) : Prop where
  fails : ∀ r e, x r = .error e → e.isOfForm = true ∨ e = r.ending
  keeps : ∀ r a r', x r = .ok (a, r') → r'.ending = r.ending

theorem failsAtEnd_pure (a : α) : FailsAtEnd (pure a) where
  fails r e h := by cases h
  keeps r b r' h := by
    cases h
    rfl

theorem failsAtEnd_throw
    {e : YamlFault}
    (he : e.isOfForm = true) :
    FailsAtEnd (throw e : Reads α) where
  fails r e' h := by
    cases h
    exact .inl he
  keeps r b r' h := by cases h

theorem failsAtEnd_malformed : FailsAtEnd (throw .malformed : Reads α) := failsAtEnd_throw rfl

theorem FailsAtEnd.bind
    {x : Reads α} {f : α → Reads β}
    (hx : FailsAtEnd x)
    (hf : ∀ a, FailsAtEnd (f a)) :
    FailsAtEnd (x >>= f) where
  fails r e h := by
    have hrun : x r >>= (fun p => f p.1 p.2) = .error e := h
    rcases bind_eq_error_iff.mp hrun with h | ⟨⟨a, r'⟩, hread, h⟩
    · exact hx.fails r e h
    · rw [← hx.keeps r a r' hread]
      exact (hf a).fails r' e h
  keeps r b r'' h := by
    have hrun : x r >>= (fun p => f p.1 p.2) = .ok (b, r'') := h
    obtain ⟨⟨a, r'⟩, hread, h⟩ := bind_eq_ok_iff.mp hrun
    exact ((hf a).keeps r' b r'' h).trans (hx.keeps r a r' hread)

theorem failsAtEnd_ite
    {c : Prop} [Decidable c] {x y : Reads α}
    (hx : FailsAtEnd x)
    (hy : FailsAtEnd y) :
    FailsAtEnd (if c then x else y) := by
  split <;> assumption

theorem failsAtEnd_get : FailsAtEnd (get : Reads Reading) where
  fails r e h := by cases h
  keeps r b r' h := by
    cases h
    rfl

theorem failsAtEnd_modify
    {f : Reading → Reading}
    (hf : ∀ r, (f r).ending = r.ending) :
    FailsAtEnd (modify f : Reads Unit) where
  fails r e h := by cases h
  keeps r b r' h := by
    cases h
    exact hf r

namespace Reads

theorem failsAtEnd_peek : FailsAtEnd peek where
  fails r e h := by
    unfold peek at h
    split at h <;> cases h
    exact .inr rfl
  keeps r t r' h := by
    unfold peek at h
    split at h <;> cases h
    rfl

theorem failsAtEnd_skip : FailsAtEnd skip := failsAtEnd_modify fun _ => rfl

theorem failsAtEnd_isNext (ts : List Token) : FailsAtEnd (isNext ts) :=
  failsAtEnd_peek.bind fun _ => failsAtEnd_pure _

theorem failsAtEnd_take (t : Token) : FailsAtEnd (take t) :=
  (failsAtEnd_isNext _).bind fun _ =>
    failsAtEnd_ite (failsAtEnd_skip.bind fun _ => failsAtEnd_pure _) (failsAtEnd_pure _)

theorem failsAtEnd_expect (t : Token) : FailsAtEnd (expect t) :=
  (failsAtEnd_take t).bind fun _ => failsAtEnd_ite failsAtEnd_malformed (failsAtEnd_pure _)

end Reads

open Reads

theorem failsAtEnd_readAnchor : FailsAtEnd readAnchor := by
  refine failsAtEnd_peek.bind fun t => ?_
  split
  · exact failsAtEnd_skip.bind fun _ => failsAtEnd_pure _
  · exact failsAtEnd_pure _

theorem failsAtEnd_readTag : FailsAtEnd readTag := by
  refine failsAtEnd_peek.bind fun t => ?_
  split
  · exact failsAtEnd_skip.bind fun _ => failsAtEnd_pure _
  · exact failsAtEnd_pure _

theorem failsAtEnd_fullTag (tag : Option String × String) : FailsAtEnd (fullTag tag) := by
  unfold fullTag
  split
  · exact failsAtEnd_pure _
  · refine failsAtEnd_get.bind fun _ => ?_
    split
    · exact failsAtEnd_pure _
    · exact failsAtEnd_malformed

theorem failsAtEnd_readProperties : FailsAtEnd readProperties := by
  refine failsAtEnd_readAnchor.bind fun _ => failsAtEnd_readTag.bind fun _ => ?_
  -- The anchor may follow the tag; the tag is looked up after both.
  refine failsAtEnd_ite (failsAtEnd_readAnchor.bind fun _ => ?_) ((failsAtEnd_pure _).bind fun _ => ?_)
  all_goals
    split
    · exact failsAtEnd_pure _
    · exact (failsAtEnd_fullTag _).bind fun _ => failsAtEnd_pure _

theorem failsAtEnd_setAnchor
    (p : Properties)
    (n : Option Node) :
    FailsAtEnd (setAnchor p n) := by
  unfold setAnchor
  split
  · exact failsAtEnd_pure _
  · exact failsAtEnd_modify fun _ => rfl

theorem failsAtEnd_checkAnchor (p : Properties) : FailsAtEnd (checkAnchor p) := by
  unfold checkAnchor
  split
  · exact failsAtEnd_pure _
  · exact failsAtEnd_get.bind fun _ => failsAtEnd_ite failsAtEnd_malformed (failsAtEnd_pure _)

theorem failsAtEnd_aliased (name : String) : FailsAtEnd (aliased name) := by
  refine failsAtEnd_get.bind fun _ => ?_
  split
  · exact failsAtEnd_pure _
  · exact failsAtEnd_throw rfl
  · exact failsAtEnd_malformed

theorem failsAtEnd_collection
    {p : Properties} {read : Reads Node}
    (h : FailsAtEnd read) :
    FailsAtEnd (collection p read) :=
  (failsAtEnd_checkAnchor p).bind fun _ => (failsAtEnd_setAnchor p _).bind fun _ =>
    h.bind fun _ => (failsAtEnd_setAnchor p _).bind fun _ => failsAtEnd_pure _

theorem failsAtEnd_scalarNode
    (p : Properties)
    (text : String)
    (plain : Bool) :
    FailsAtEnd (scalarNode p text plain) :=
  (failsAtEnd_checkAnchor p).bind fun _ => (failsAtEnd_setAnchor p _).bind fun _ =>
    failsAtEnd_pure _

/-- What holds of the readings of nodes with some fuel. -/
structure ReadsNodes (fuel : Nat) : Prop where
  node : ∀ blocks bareItems, FailsAtEnd (readNode fuel blocks bareItems)
  content : ∀ blocks bareItems p, FailsAtEnd (readContent fuel blocks bareItems p)
  nodeOrEmpty : ∀ ends blocks bareItems, FailsAtEnd (readNodeOrEmpty fuel ends blocks bareItems)
  blockItems : FailsAtEnd (readBlockItems fuel)
  bareItems : FailsAtEnd (readBareItems fuel)
  blockEntries : FailsAtEnd (readBlockEntries fuel)
  flowItems : ∀ first, FailsAtEnd (readFlowItems fuel first)
  flowEntries : ∀ first, FailsAtEnd (readFlowEntries fuel first)

namespace ReadsNodes

variable {fuel : Nat}

/-- A value after its mark, or nothing. -/
theorem valueOr
    {f : Node → Reads α}
    (h : ReadsNodes fuel)
    (hf : ∀ n, FailsAtEnd (f n))
    (ends : List Token)
    (blocks bareItems : Bool) :
    FailsAtEnd (do
      if ← take .value then
        let n ← readNodeOrEmpty fuel ends blocks bareItems
        f n
      else
        let n ← pure Node.empty
        f n) :=
  (failsAtEnd_take _).bind fun _ =>
    failsAtEnd_ite ((h.nodeOrEmpty _ _ _).bind hf) ((failsAtEnd_pure _).bind hf)

theorem zero : ReadsNodes 0 where
  node _ _ := failsAtEnd_malformed
  content _ _ _ := failsAtEnd_malformed
  nodeOrEmpty _ _ _ := failsAtEnd_malformed
  blockItems := failsAtEnd_malformed
  bareItems := failsAtEnd_malformed
  blockEntries := failsAtEnd_malformed
  flowItems _ := failsAtEnd_malformed
  flowEntries _ := failsAtEnd_malformed

theorem content_succ
    (h : ReadsNodes fuel)
    (blocks bareItems : Bool)
    (p : Properties) :
    FailsAtEnd (readContent (fuel + 1) blocks bareItems p) := by
  have hsequence {items : Reads (List Node)} (hitems : FailsAtEnd items) : FailsAtEnd
      (collection p do return .sequence (p.tagOr .sequence) (← items)) :=
    failsAtEnd_collection (hitems.bind fun _ => failsAtEnd_pure _)
  have hmapping {entries : Reads (List (Node × Node))} (hentries : FailsAtEnd entries) : FailsAtEnd
      (collection p do return .mapping (p.tagOr .mapping) (← entries)) :=
    failsAtEnd_collection (hentries.bind fun _ => failsAtEnd_pure _)
  unfold readContent
  refine failsAtEnd_peek.bind fun t => ?_
  split
  · exact hsequence h.bareItems
  · exact failsAtEnd_skip.bind fun _ => failsAtEnd_scalarNode _ _ _
  · exact failsAtEnd_skip.bind fun _ => hsequence (h.flowItems _)
  · exact failsAtEnd_skip.bind fun _ => hmapping (h.flowEntries _)
  · exact failsAtEnd_skip.bind fun _ => hsequence h.blockItems
  · exact failsAtEnd_skip.bind fun _ => hmapping h.blockEntries
  · exact failsAtEnd_ite failsAtEnd_malformed (failsAtEnd_scalarNode _ _ _)

theorem node_succ
    (h : ReadsNodes fuel)
    (blocks bareItems : Bool) :
    FailsAtEnd (readNode (fuel + 1) blocks bareItems) := by
  unfold readNode
  refine failsAtEnd_peek.bind fun t => ?_
  split
  · exact failsAtEnd_skip.bind fun _ => failsAtEnd_aliased _
  · exact failsAtEnd_readProperties.bind fun _ => h.content _ _ _

theorem blockItems_succ (h : ReadsNodes fuel) : FailsAtEnd (readBlockItems (fuel + 1)) := by
  unfold readBlockItems
  refine (failsAtEnd_take _).bind fun _ => failsAtEnd_ite ?_ ?_
  · exact (h.nodeOrEmpty _ _ _).bind fun _ => h.blockItems.bind fun _ => failsAtEnd_pure _
  · exact (failsAtEnd_expect _).bind fun _ => failsAtEnd_pure _

theorem bareItems_succ (h : ReadsNodes fuel) : FailsAtEnd (readBareItems (fuel + 1)) := by
  unfold readBareItems
  refine (failsAtEnd_take _).bind fun _ => failsAtEnd_ite ?_ ?_
  · exact (h.nodeOrEmpty _ _ _).bind fun _ => h.bareItems.bind fun _ => failsAtEnd_pure _
  · exact failsAtEnd_pure _

theorem blockEntries_succ (h : ReadsNodes fuel) : FailsAtEnd (readBlockEntries (fuel + 1)) := by
  unfold readBlockEntries
  refine (failsAtEnd_take _).bind fun _ => failsAtEnd_ite ?_ ?_
  · exact (h.nodeOrEmpty _ _ _).bind fun _ =>
      h.valueOr (fun _ => h.blockEntries.bind fun _ => failsAtEnd_pure _) _ _ _
  · exact (failsAtEnd_expect _).bind fun _ => failsAtEnd_pure _

/-- The readings of what stands on one line begin alike: with its end, or with a comma. -/
theorem flow
    {close : Token} {first : Bool} {x : α} {read : Reads α}
    (h : FailsAtEnd read) :
    FailsAtEnd (do
      if ← take close then return x
      if !first then expect .flowEntry
      read) := by
  refine (failsAtEnd_take _).bind fun _ => failsAtEnd_ite (failsAtEnd_pure _) ?_
  exact failsAtEnd_ite ((failsAtEnd_expect _).bind fun _ => h) h

theorem flowItems_succ
    (h : ReadsNodes fuel)
    (first : Bool) :
    FailsAtEnd (readFlowItems (fuel + 1) first) := by
  unfold readFlowItems
  refine flow ((failsAtEnd_take _).bind fun _ => failsAtEnd_ite ?_ ?_)
  · exact (h.nodeOrEmpty _ _ _).bind fun _ =>
      h.valueOr (fun _ => (h.flowItems _).bind fun _ => failsAtEnd_pure _) _ _ _
  · refine (failsAtEnd_take _).bind fun _ => failsAtEnd_ite (failsAtEnd_pure _) ?_
    exact (h.node _ _).bind fun _ => (h.flowItems _).bind fun _ => failsAtEnd_pure _

theorem flowEntries_succ
    (h : ReadsNodes fuel)
    (first : Bool) :
    FailsAtEnd (readFlowEntries (fuel + 1) first) := by
  unfold readFlowEntries
  refine flow ((failsAtEnd_take _).bind fun _ => failsAtEnd_ite ?_ ?_)
  · exact (h.nodeOrEmpty _ _ _).bind fun _ =>
      h.valueOr (fun _ => (h.flowEntries _).bind fun _ => failsAtEnd_pure _) _ _ _
  · refine (failsAtEnd_take _).bind fun _ => failsAtEnd_ite (failsAtEnd_pure _) ?_
    exact (h.node _ _).bind fun _ => (h.flowEntries _).bind fun _ => failsAtEnd_pure _

theorem of_fuel : ∀ fuel, ReadsNodes fuel
  | 0 => zero
  | fuel + 1 =>
    have h := of_fuel fuel
    { node := h.node_succ
      content := h.content_succ
      nodeOrEmpty := fun _ _ _ => (failsAtEnd_isNext _).bind fun _ =>
        failsAtEnd_ite (failsAtEnd_pure _) (h.node _ _)
      blockItems := h.blockItems_succ
      bareItems := h.bareItems_succ
      blockEntries := h.blockEntries_succ
      flowItems := h.flowItems_succ
      flowEntries := h.flowEntries_succ }

end ReadsNodes

/-- The tags under which a text need not denote anything. -/
inductive Tag.IsDemanding : Tag → Prop
  | flag : IsDemanding .flag
  | int : IsDemanding .int
  | float : IsDemanding .float
  | timestamp : IsDemanding .timestamp

namespace Node

/-- Being a node, or one of those below it. -/
inductive Within (m : Node) : Node → Prop
  | self : Within m m
  | item
      {n : Node} {tag : Tag} {items : List Node}
      (hn : n ∈ items)
      (h : Within m n) :
      Within m (.sequence tag items)
  | key
      {k v : Node} {tag : Tag} {entries : List (Node × Node)}
      (hentry : (k, v) ∈ entries)
      (h : Within m k) :
      Within m (.mapping tag entries)
  | value
      {k v : Node} {tag : Tag} {entries : List (Node × Node)}
      (hentry : (k, v) ∈ entries)
      (h : Within m v) :
      Within m (.mapping tag entries)

open Denoted

variable {α β : Type} {S T : Node → Prop} {n : Node} {tag : Tag}

/-- That the text of a scalar does not denote what its tag says, and the fault of that. -/
def IsMisfit (m : Node) (fault : YamlFault) : Prop :=
  ∃ text, m.scalarText? = some text ∧ m.textValue text = .error fault

/-- That a fault is of form, or that of a misfit among some nodes. -/
def Explains (S : Node → Prop) (e : DeepFault) : Prop :=
  e.fault = .malformed ∨ ∃ m, S m ∧ m.IsMisfit e.fault

theorem Explains.imp
    {e : DeepFault}
    (h : Explains S e)
    (hS : ∀ m, S m → T m) :
    Explains T e :=
  h.imp_right fun ⟨m, hm, hmisfit⟩ => ⟨m, hS m hm, hmisfit⟩

theorem explains_fail : FailsBy (Explains S) (fail .malformed : Denoted α) :=
  failsBy_error.mpr (.inl rfl)

/-- A fault of two parts is a fault of one of them. -/
theorem explains_both
    {x : Denoted α} {y : Denoted β}
    (hx : FailsBy (Explains S) x)
    (hy : FailsBy (Explains S) y) :
    FailsBy (Explains S) (x.both y) := by
  intro e h
  unfold both at h
  split at h
  · cases h
  · cases h
    exact hx _ rfl
  · cases h
    exact hy _ rfl
  · split at h
    · cases h
      exact hy _ rfl
    · cases h
      exact hx _ rfl

theorem explains_below
    {x : Denoted α}
    (hx : FailsBy (Explains S) x) :
    FailsBy (Explains S) x.below := by
  intro e h
  obtain ⟨d, hd, rfl⟩ := mapError_eq_error_iff.mp h
  exact hx d hd

theorem explains_scalarDenoted (n : Node) : FailsBy (Explains (Within · n)) (scalarDenoted n) := by
  intro e h
  unfold scalarDenoted at h
  split at h
  · rename_i text htext
    obtain ⟨fault, hfault, rfl⟩ := mapError_eq_error_iff.mp h
    exact .inr ⟨n, .self, text, htext, hfault⟩
  · exact explains_fail e h

theorem explains_keyOf
    {x : Denoted Value}
    (hx : FailsBy (Explains S) x) :
    FailsBy (Explains S) (keyOf n x) := by
  unfold keyOf
  split
  · exact failsBy_ok _
  · exact failsBy_ite explains_fail hx

/-- The nodes within the keys and values of entries. -/
def WithinEntries (entries : List (Node × Node)) (m : Node) : Prop :=
  ∃ entry ∈ entries, Within m entry.1 ∨ Within m entry.2

/-- The nodes within the items of a sequence. -/
def WithinItems (items : List Node) (m : Node) : Prop := ∃ n ∈ items, Within m n

theorem WithinEntries.within
    {entries : List (Node × Node)} {m : Node}
    (h : WithinEntries entries m) :
    Within m (.mapping tag entries) := by
  obtain ⟨⟨k, v⟩, hentry, hk | hv⟩ := h
  · exact .key hentry hk
  · exact .value hentry hv

theorem WithinItems.within
    {items : List Node} {m : Node}
    (h : WithinItems items m) :
    Within m (.sequence tag items) := by
  obtain ⟨n, hn, hm⟩ := h
  exact .item hn hm

mutual

/-- A tree that has no value is malformed, or a scalar in it is a misfit. -/
theorem explains_denote : ∀ n : Node, FailsBy (Explains (Within · n)) n.denote
  | .scalar tag s => by
    unfold denote
    exact failsBy_ite (explains_below explains_fail) (explains_scalarDenoted (.scalar tag s))
  | .sequence tag items => by
    unfold denote
    split
    · exact failsBy_map.mpr <| explains_below <|
        (explains_denoteItems items).imp fun _ h => h.imp fun _ => WithinItems.within
    · exact failsBy_map.mpr <| explains_below <|
        (explains_denotePairs items).imp fun _ h => h.imp fun _ => WithinItems.within
    · exact failsBy_map.mpr <| explains_below <|
        (explains_denotePairs items).imp fun _ h => h.imp fun _ => WithinItems.within
    · exact explains_below explains_fail
    · exact explains_below explains_fail
    · exact explains_fail
  | .mapping tag entries => by
    have hentries : FailsBy (Explains (Within · (.mapping tag entries))) (denoteEntries entries) :=
      (explains_denoteEntries entries).imp fun _ h => h.imp fun _ => WithinEntries.within
    unfold denote
    split
    · exact failsBy_map.mpr (explains_below hentries)
    · exact failsBy_map.mpr (explains_below hentries)
    · exact explains_below explains_fail
    · exact explains_below explains_fail
    · exact explains_below explains_fail
    · exact explains_scalarDenoted (.mapping tag entries)

theorem explains_denoteItems :
    ∀ items : List Node, FailsBy (Explains (WithinItems items)) (denoteItems items)
  | [] => failsBy_ok _
  | n :: ns => by
    unfold denoteItems
    refine failsBy_map.mpr (explains_both ?_ ?_)
    · exact (explains_denote n).imp fun _ h => h.imp fun m hm => ⟨n, List.mem_cons_self, hm⟩
    · refine (explains_denoteItems ns).imp fun _ h => h.imp ?_
      rintro m ⟨n', hn', hm⟩
      exact ⟨n', List.mem_cons_of_mem n hn', hm⟩

theorem explains_denoteEntries :
    ∀ entries : List (Node × Node), FailsBy (Explains (WithinEntries entries)) (denoteEntries entries)
  | [] => failsBy_ok _
  | (k, v) :: es => by
    unfold denoteEntries
    refine failsBy_map.mpr (explains_both (explains_both (explains_keyOf ?_) ?_) ?_)
    · exact (explains_denote k).imp fun _ h => h.imp fun m hm => ⟨(k, v), List.mem_cons_self, .inl hm⟩
    · exact (explains_denote v).imp fun _ h => h.imp fun m hm => ⟨(k, v), List.mem_cons_self, .inr hm⟩
    · refine (explains_denoteEntries es).imp fun _ h => h.imp ?_
      rintro m ⟨entry, hentry, hm⟩
      exact ⟨entry, List.mem_cons_of_mem _ hentry, hm⟩

theorem explains_denotePairs :
    ∀ items : List Node, FailsBy (Explains (WithinItems items)) (denotePairs items)
  | [] => failsBy_ok _
  | .mapping tag [(k, v)] :: ns => by
    unfold denotePairs
    -- The mapping around the key and the value is not read itself, so its tag does not matter.
    have hhead (m : Node) (hm : WithinEntries [(k, v)] m) :
        WithinItems (.mapping tag [(k, v)] :: ns) m :=
      ⟨_, List.mem_cons_self, hm.within⟩
    refine failsBy_map.mpr (explains_both (explains_both ?_ ?_) ?_)
    · exact (explains_denote k).imp fun _ h => h.imp fun m hm =>
        hhead m ⟨(k, v), List.mem_cons_self, .inl hm⟩
    · exact (explains_denote v).imp fun _ h => h.imp fun m hm =>
        hhead m ⟨(k, v), List.mem_cons_self, .inr hm⟩
    · refine (explains_denotePairs ns).imp fun _ h => h.imp ?_
      rintro m ⟨n', hn', hm⟩
      exact ⟨n', List.mem_cons_of_mem _ hn', hm⟩
  | .mapping _ [] :: _ => explains_fail
  | .mapping _ (_ :: _ :: _) :: _ => explains_fail
  | .scalar .. :: _ => explains_fail
  | .sequence .. :: _ => explains_fail

end

end Node

/-! ## Texts -/

/-- What is at fault with a text that is not malformed: its tokens break off, or its tree has a scalar
that does not denote what its tag says. -/
inductive IsFaulty (s : String) : YamlFault → Prop
  | token
      {e : YamlFault}
      (htokens : (tokens s.toList).2 = some e)
      (he : IsLexical e) :
      IsFaulty s e
  | scalar
      {n m : Node} {e : YamlFault}
      (htree : Node.ofTokens (tokens s.toList).1 (tokens s.toList).2 = .ok (some n))
      (hm : Node.Within m n.merged)
      (htag : m.tag.IsDemanding)
      (he : m.IsMisfit e) :
      IsFaulty s e

end Yaml
end RollupAudit
