import EpaperLayout.Yaml.Document
import Mathlib.Tactic

/-!
# Block collections as tokens

The tokens of a block collection without tags and anchors are read as its value,
wherever they stand in a text: which marks they carry does not matter, nor what
comes before and behind them.

**Input.**  Kinds of tokens, and the value that they stand for.

**Layers.**
* `ReadsNode`: the tokens are read as events.
* `Builds`: the events are put together to a node.
* `Resolves`: the node has a value.

**Results.**
* `IsContent.scalar`, `IsContent.sequence`, `IsContent.mapping`: the kinds of
  tokens of scalars and collections.
* `ofText_of_isContent`: a text with such tokens has the value.
-/

namespace EpaperLayout
namespace Yaml

section Layers

/-- The reader behind some tokens, with the events read of them. -/
def EventReader.after (reader : EventReader) (rest : List Token) (events : List Event) :
    EventReader :=
  { reader with tokens := rest, events := reader.events ++ events.toArray }

/-- The tokens are read as the events of a node. -/
def ReadsNode (tokens : List Token) (events : List Event) : Prop :=
  ∀ (calls : Nat) (indentless : Bool) (reader : EventReader) (rest : List Token),
    3 * tokens.length ≤ calls → reader.tokens = tokens ++ rest →
      (EventReader.node calls true indentless).run reader = (.ok (), reader.after rest events)

/-- The events add the nodes to what is being put together. -/
def Builds (events : List Event) (nodes : List Node) : Prop :=
  ∀ growth : Node.Growth,
    events.foldl Node.Growth.take growth = nodes.foldl Node.Growth.add growth

/-- The node has the value, if collections may nest to the height. -/
def Resolves (height : Nat) (node : Node) (value : Value) : Prop :=
  ∀ (around : Surroundings) (depth jumps : Nat), height ≤ depth →
    (around.resolve depth false node).run jumps = .ok (value, jumps)

/-- The kinds of tokens with which scalars and block collections begin. -/
def opensNode : TokenKind → Bool
  | .scalar .. | .blockSequenceStart | .blockMappingStart => true
  | _ => false

/-- Tokens of these kinds are the content of a node with the value. -/
structure IsContent (kinds : List TokenKind) (height : Nat) (value : Value) : Prop where
  opens : ∃ kind rest, kinds = kind :: rest ∧ opensNode kind = true
  reads : ∀ tokens : List Token, tokens.map Token.kind = kinds →
    ∃ events node, ReadsNode tokens events ∧ Builds events [node] ∧ Resolves height node value

end Layers

section Readers

namespace EventReader

theorem after_after (reader : EventReader) (first second : List Token)
    (events more : List Event) :
    (reader.after first events).after second more = reader.after second (events ++ more) := by
  simp [after]

/-- Reading goes on with the result and the reader of the first part. -/
theorem run_bind
    {α β : Type} {m : Reading α} {f : α → Reading β} {reader next : EventReader} {a : α}
    (h : m.run reader = (.ok a, next)) :
    (m >>= f).run reader = (f a).run next := by
  change (ExceptT.bindCont (fun a => (f a).run) (m.run reader).1 : StateM _ _) (m.run reader).2 = _
  rw [h]
  rfl

variable {calls : Nat} {reader : EventReader} {rest : List Token} {mark : Mark}

theorem run_node_scalar
    {text : String} {plain : Bool}
    (h : reader.tokens = { kind := .scalar text plain, mark } :: rest)
    (indentless : Bool) :
    (node (calls + 1) true indentless).run reader =
      (.ok (), reader.after rest [.scalar { mark } text plain]) := by
  obtain ⟨tokens, fault, handles, anchors, events⟩ := reader
  obtain rfl : tokens = _ := h
  rw [node]
  rfl

theorem run_node_sequence
    (h : reader.tokens = { kind := .blockSequenceStart, mark } :: rest)
    (indentless : Bool) :
    (node (calls + 1) true indentless).run reader =
      (blockItems calls).run (reader.after rest [.sequenceStart { mark }]) := by
  obtain ⟨tokens, fault, handles, anchors, events⟩ := reader
  obtain rfl : tokens = _ := h
  rw [node]
  rfl

theorem run_node_mapping
    (h : reader.tokens = { kind := .blockMappingStart, mark } :: rest)
    (indentless : Bool) :
    (node (calls + 1) true indentless).run reader =
      (blockPairs calls).run (reader.after rest [.mappingStart { mark }]) := by
  obtain ⟨tokens, fault, handles, anchors, events⟩ := reader
  obtain rfl : tokens = _ := h
  rw [node]
  rfl

theorem run_blockItems_end
    (h : reader.tokens = { kind := .blockEnd, mark } :: rest) :
    (blockItems (calls + 1)).run reader = (.ok (), reader.after rest [.sequenceEnd]) := by
  obtain ⟨tokens, fault, handles, anchors, events⟩ := reader
  obtain rfl : tokens = _ := h
  rw [blockItems]
  rfl

theorem run_blockPairs_end
    (h : reader.tokens = { kind := .blockEnd, mark } :: rest) :
    (blockPairs (calls + 1)).run reader = (.ok (), reader.after rest [.mappingEnd]) := by
  obtain ⟨tokens, fault, handles, anchors, events⟩ := reader
  obtain rfl : tokens = _ := h
  rw [blockPairs]
  rfl

/-- The item behind a dash is a node. -/
theorem run_blockItems_entry
    {next : Token}
    (h : reader.tokens = { kind := .blockEntry, mark } :: next :: rest)
    (hnext : opensNode next.kind = true) :
    (blockItems (calls + 1)).run reader =
      (node calls true false >>= fun _ => blockItems calls).run
        (reader.after (next :: rest) []) := by
  obtain ⟨tokens, fault, handles, anchors, events⟩ := reader
  obtain rfl : tokens = _ := h
  obtain ⟨kind, place⟩ := next
  rw [blockItems]
  cases kind with
  | scalar text plain =>
      rfl
  | blockSequenceStart =>
      rfl
  | blockMappingStart =>
      rfl
  | _ =>
      cases hnext

/-- A key or a value is a node. -/
theorem run_blockMember
    {next : Token}
    (h : reader.tokens = next :: rest)
    (hnext : opensNode next.kind = true) :
    (blockMember (calls + 1)).run reader = (node calls true true).run reader := by
  obtain ⟨tokens, fault, handles, anchors, events⟩ := reader
  obtain rfl : tokens = _ := h
  obtain ⟨kind, place⟩ := next
  rw [blockMember]
  cases kind with
  | scalar text plain =>
      rfl
  | blockSequenceStart =>
      rfl
  | blockMappingStart =>
      rfl
  | _ =>
      cases hnext

/-- A key is read, and then what is behind it. -/
theorem run_blockPairs_key
    (h : reader.tokens = { kind := .key, mark } :: rest) :
    (blockPairs (calls + 1)).run reader =
      (blockMember calls >>= fun _ => do
        let next ← peek
        if next.kind = .value then
          skip
          blockMember calls
        else emitMissing next.mark
        blockPairs calls).run (reader.after rest []) := by
  obtain ⟨tokens, fault, handles, anchors, events⟩ := reader
  obtain rfl : tokens = _ := h
  rw [blockPairs]
  rfl

/-- Behind a key stands its value. -/
theorem run_value
    (h : reader.tokens = { kind := .value, mark } :: rest) :
    ExceptT.run (m := StateM EventReader) (do
        let next ← peek
        if next.kind = TokenKind.value then
          skip
          blockMember calls
        else emitMissing next.mark
        blockPairs calls) reader =
      (blockMember calls >>= fun _ => blockPairs calls).run (reader.after rest []) := by
  obtain ⟨tokens, fault, handles, anchors, events⟩ := reader
  obtain rfl : tokens = _ := h
  rfl

end EventReader

end Readers

section Nodes

theorem Builds.append
    {first second : List Event} {nodes more : List Node}
    (hfirst : Builds first nodes)
    (hsecond : Builds second more) :
    Builds (first ++ second) (nodes ++ more) := by
  intro growth
  rw [List.foldl_append, hfirst, hsecond, List.foldl_append]

/-- Nodes become members of the open collection around them. -/
theorem foldl_add
    (nodes : List Node) (frame : Node.Frame) (outer : List Node.Frame) (root : Option Node) :
    nodes.foldl Node.Growth.add { frames := frame :: outer, root } =
      { frames := { frame with members := nodes.reverse ++ frame.members } :: outer, root } := by
  induction nodes generalizing frame with
  | nil =>
      rfl
  | cons node rest ih =>
      rw [List.foldl_cons]
      change rest.foldl Node.Growth.add
        { frames := { frame with members := node :: frame.members } :: outer, root } = _
      rw [ih]
      simp

/-- The events of nodes between the ends of a sequence add the sequence. -/
theorem Builds.sequence
    {events : List Event} {nodes : List Node}
    (h : Builds events nodes)
    (properties : Properties) :
    Builds (.sequenceStart properties :: (events ++ [.sequenceEnd]))
      [.sequence properties nodes] := by
  intro growth
  rw [List.foldl_cons, List.foldl_append]
  change (events.foldl Node.Growth.take (growth.opened properties false)).closed = _
  rw [h, Node.Growth.opened, foldl_add]
  simp [Node.Growth.closed, Node.Frame.node]

theorem paired_flatMap (pairs : List (Node × Node)) :
    Node.paired (pairs.flatMap fun pair => [pair.1, pair.2]) = pairs := by
  induction pairs with
  | nil =>
      rfl
  | cons pair rest ih =>
      rw [List.flatMap_cons, List.cons_append, List.cons_append, List.nil_append, Node.paired, ih]

/-- The events of keys and values between the ends of a mapping add the mapping. -/
theorem Builds.mapping
    {events : List Event} {pairs : List (Node × Node)}
    (h : Builds events (pairs.flatMap fun pair => [pair.1, pair.2]))
    (properties : Properties) :
    Builds (.mappingStart properties :: (events ++ [.mappingEnd]))
      [.mapping properties pairs] := by
  intro growth
  rw [List.foldl_cons, List.foldl_append]
  change (events.foldl Node.Growth.take (growth.opened properties true)).closed = _
  rw [h, Node.Growth.opened, foldl_add]
  simp [Node.Growth.closed, Node.Frame.node, paired_flatMap]

theorem Builds.scalar (properties : Properties) (text : String) (plain : Bool) :
    Builds [.scalar properties text plain] [.scalar properties text plain] :=
  fun _ => rfl

end Nodes

section Values

theorem Resolves.mono
    {low high : Nat} {node : Node} {value : Value}
    (h : Resolves low node value)
    (hle : low ≤ high) :
    Resolves high node value :=
  fun around depth jumps hdepth => h around depth jumps (Nat.le_trans hle hdepth)

/-- A walk goes on with the value and the count of its first part. -/
theorem walk_bind
    {α β : Type} {m : Walk α} {f : α → Walk β} {jumps next : Nat} {a : α}
    (h : m.run jumps = .ok (a, next)) :
    (m >>= f).run jumps = (f a).run next := by
  rw [StateT.run_bind, h]
  rfl

theorem Resolves.scalar
    {text : String} {plain : Bool} {value : Value}
    (h : scalarValue none text plain = .ok value)
    (mark : Mark) :
    Resolves 0 (.scalar { mark } text plain) value := by
  have hnode : ∀ (around : Surroundings) (inner : Option Resolve) (jumps : Nat),
      (around.resolveNode inner false (.scalar { mark } text plain)).run jumps =
        .ok (value, jumps) := by
    intro around inner jumps
    change (around.resolveContent inner false (.scalar { mark } text plain)).run jumps = _
    simp only [Surroundings.resolveContent, Bool.false_eq_true, if_false, h]
    rfl
  intro around depth jumps _
  cases depth with
  | zero =>
      exact hnode around none jumps
  | succ depth =>
      exact hnode around _ jumps

theorem run_mapM_resolve
    {height depth : Nat} {items : List Node} {values : List Value}
    (around : Surroundings)
    (hdepth : height ≤ depth)
    (h : List.Forall₂ (Resolves height) items values)
    (jumps : Nat) :
    (items.mapM (around.resolve depth false)).run jumps = .ok (values, jumps) := by
  induction h with
  | nil =>
      rfl
  | cons hitem _ ih =>
      rw [List.mapM_cons, walk_bind (hitem around depth jumps hdepth), walk_bind ih]
      rfl

theorem Resolves.sequence
    {height : Nat} {items : List Node} {values : List Value}
    (h : List.Forall₂ (Resolves height) items values)
    (mark : Mark) :
    Resolves (height + 1) (.sequence { mark } items) (.sequence values) := by
  intro around depth jumps hdepth
  obtain ⟨depth, rfl⟩ : ∃ d, depth = d + 1 := ⟨depth - 1, by omega⟩
  have hitems := run_mapM_resolve around (Nat.le_of_succ_le_succ hdepth) h jumps
  change ((items.mapM (around.resolve depth false)) >>= fun values =>
    pure (Value.sequence values)).run jumps = _
  rw [walk_bind hitems]
  rfl

/-- A key of a mapping with the kinds of the tokens of its value. -/
structure Member where
  key : String
  kinds : List TokenKind
  value : Value

/-- The entry of a mapping. -/
def Member.entry (member : Member) : Value × Value :=
  (.string member.key, member.value)

/-- The nodes of a key and its value. -/
def Member.IsPair (height : Nat) (pair : Node × Node) (member : Member) : Prop :=
  Resolves height pair.1 (.string member.key) ∧ Resolves height pair.2 member.value

theorem any_same_entry
    {members : List Member} {key : String}
    (h : key ∉ members.map Member.key) :
    (members.map Member.entry).any (fun entry => entry.1.same (.string key)) = false := by
  rw [List.any_eq_false]
  intro entry hentry
  obtain ⟨member, hmember, rfl⟩ := List.mem_map.mp hentry
  intro hsame
  change (member.key == key) = true at hsame
  rw [beq_iff_eq] at hsame
  exact h (hsame ▸ List.mem_map_of_mem hmember)

/-- Takes one more pair of a mapping behind some entries. -/
def addEntry (resolve : Resolve) (mark : Mark) (entries : List (Value × Value))
    (pair : Node × Node) : Walk (List (Value × Value)) := do
  let key ← resolve false pair.1
  if entries.any fun entry : Value × Value => entry.1.same key then
    throw (.marked mark .duplicateKey)
  return entries ++ [(key, ← resolve false pair.2)]

theorem run_addEntry
    {height depth : Nat} {pair : Node × Node} {member : Member} {done : List Member}
    (around : Surroundings)
    (hdepth : height ≤ depth)
    (hpair : Member.IsPair height pair member)
    (hnew : member.key ∉ done.map Member.key)
    (mark : Mark)
    (jumps : Nat) :
    (addEntry (around.resolve depth) mark (done.map Member.entry) pair).run jumps =
      .ok ((done ++ [member]).map Member.entry, jumps) := by
  rw [addEntry, walk_bind (hpair.1 around depth jumps hdepth)]
  simp only [any_same_entry hnew, Bool.false_eq_true, if_false]
  rw [walk_bind (hpair.2 around depth jumps hdepth), List.map_append]
  rfl

/-- The pairs of a mapping are taken one after the other if their keys are different. -/
theorem run_foldlM_addEntry
    {height depth : Nat} {pairs : List (Node × Node)} {members : List Member}
    (around : Surroundings)
    (done : List Member)
    (hdepth : height ≤ depth)
    (h : List.Forall₂ (Member.IsPair height) pairs members)
    (hkeys : ((done ++ members).map Member.key).Nodup)
    (mark : Mark)
    (jumps : Nat) :
    (pairs.foldlM (addEntry (around.resolve depth) mark) (done.map Member.entry)).run jumps =
      .ok ((done ++ members).map Member.entry, jumps) := by
  induction h generalizing done with
  | nil =>
      rw [List.append_nil]
      rfl
  | @cons pair member pairs members hpair _ ih =>
      have hnew : member.key ∉ done.map Member.key := by
        rw [List.map_append, List.nodup_append] at hkeys
        intro hmem
        exact hkeys.2.2 _ hmem member.key (by simp) rfl
      have hmore : (((done ++ [member]) ++ members).map Member.key).Nodup := by
        simpa using hkeys
      have hrest := ih (done ++ [member]) hmore
      rw [List.append_assoc, List.singleton_append] at hrest
      rw [List.foldlM_cons, walk_bind (run_addEntry around hdepth hpair hnew mark jumps), hrest]

theorem Resolves.mapping
    {height : Nat} {pairs : List (Node × Node)} {members : List Member}
    (h : List.Forall₂ (Member.IsPair height) pairs members)
    (hkeys : (members.map Member.key).Nodup)
    (mark : Mark) :
    Resolves (height + 1) (.mapping { mark } pairs) (.mapping (members.map Member.entry)) := by
  intro around depth jumps hdepth
  obtain ⟨depth, rfl⟩ : ∃ d, depth = d + 1 := ⟨depth - 1, by omega⟩
  have hentries := run_foldlM_addEntry around [] (Nat.le_of_succ_le_succ hdepth) h hkeys mark
    jumps
  rw [List.map_nil, List.nil_append] at hentries
  change (pairs.foldlM (addEntry (around.resolve depth) mark) [] >>= fun entries =>
    pure (Value.mapping entries)).run jumps = _
  rw [walk_bind hentries]
  rfl

end Values

section Contents

theorem opensNode_head
    {kinds : List TokenKind} {height : Nat} {value : Value} {tokens : List Token}
    (h : IsContent kinds height value)
    (htokens : tokens.map Token.kind = kinds) :
    ∃ first rest, tokens = first :: rest ∧ opensNode first.kind = true := by
  obtain ⟨kind, others, rfl, hkind⟩ := h.opens
  obtain ⟨first, rest, rfl, rfl, -⟩ := List.map_eq_cons_iff.mp htokens
  exact ⟨first, rest, rfl, hkind⟩

/-- **Scalars are read as their values.** -/
theorem IsContent.scalar
    {text : String} {plain : Bool} {value : Value}
    (h : scalarValue none text plain = .ok value) :
    IsContent [.scalar text plain] 0 value := by
  refine ⟨⟨_, [], rfl, rfl⟩, ?_⟩
  intro tokens htokens
  obtain ⟨⟨kind, mark⟩, rest, rfl, hkind, hrest⟩ := List.map_eq_cons_iff.mp htokens
  obtain rfl : kind = .scalar text plain := hkind
  obtain rfl : rest = [] := List.map_eq_nil_iff.mp hrest
  refine ⟨[.scalar { mark } text plain], .scalar { mark } text plain, ?_,
    Builds.scalar _ _ _, Resolves.scalar h mark⟩
  intro calls indentless reader rest hcalls hreader
  obtain ⟨calls, rfl⟩ : ∃ c, calls = c + 1 := ⟨calls - 1, by simp at hcalls; omega⟩
  exact EventReader.run_node_scalar hreader indentless

/-- The items of a block sequence are read one after the other. -/
theorem exists_run_blockItems
    {height : Nat} {items : List (List TokenKind × Value)} {tokens : List Token}
    (hitems : ∀ item ∈ items, IsContent item.1 height item.2)
    (htokens : tokens.map Token.kind = items.flatMap fun item => .blockEntry :: item.1) :
    ∃ events nodes, Builds events nodes ∧
      List.Forall₂ (Resolves height) nodes (items.map Prod.snd) ∧
      ∀ (calls : Nat) (reader : EventReader) (mark : Mark) (rest : List Token),
        3 * tokens.length + 3 ≤ calls →
          reader.tokens = tokens ++ { kind := .blockEnd, mark } :: rest →
            (EventReader.blockItems calls).run reader =
              (.ok (), reader.after rest (events ++ [.sequenceEnd])) := by
  induction items generalizing tokens with
  | nil =>
      obtain rfl : tokens = [] := List.map_eq_nil_iff.mp htokens
      refine ⟨[], [], fun _ => rfl, List.Forall₂.nil, ?_⟩
      intro calls reader mark rest hcalls hreader
      obtain ⟨calls, rfl⟩ : ∃ c, calls = c + 1 := ⟨calls - 1, by omega⟩
      exact EventReader.run_blockItems_end hreader
  | cons item items ih =>
      rw [List.flatMap_cons, List.cons_append] at htokens
      obtain ⟨⟨kind, dash⟩, others, rfl, hkind, hothers⟩ := List.map_eq_cons_iff.mp htokens
      obtain rfl : kind = .blockEntry := hkind
      obtain ⟨content, others, rfl, hcontent, hothers⟩ := List.map_eq_append_iff.mp hothers
      have hitem := hitems item List.mem_cons_self
      obtain ⟨events, node, hreads, hbuilds, hresolves⟩ := hitem.reads content hcontent
      obtain ⟨more, nodes, hmore, hnodes, hrun⟩ :=
        ih (fun other hother => hitems other (List.mem_cons_of_mem _ hother)) hothers
      obtain ⟨first, following, rfl, hopens⟩ := opensNode_head hitem hcontent
      refine ⟨events ++ more, node :: nodes, hbuilds.append hmore,
        List.Forall₂.cons hresolves hnodes, ?_⟩
      intro calls reader mark rest hcalls hreader
      simp only [List.length_cons, List.length_append] at hcalls
      obtain ⟨calls, rfl⟩ : ∃ c, calls = c + 1 := ⟨calls - 1, by omega⟩
      rw [EventReader.run_blockItems_entry hreader hopens, EventReader.run_bind
        (hreads calls false _ (others ++ { kind := .blockEnd, mark } :: rest)
          (by simp only [List.length_cons]; omega) (by simp [EventReader.after])),
        hrun calls _ mark rest (by omega) rfl, EventReader.after_after, EventReader.after_after]
      simp

/-- **Block sequences are read as the values of their items.** -/
theorem IsContent.sequence
    {height : Nat} {items : List (List TokenKind × Value)}
    (hitems : ∀ item ∈ items, IsContent item.1 height item.2) :
    IsContent
      (.blockSequenceStart :: ((items.flatMap fun item => .blockEntry :: item.1) ++ [.blockEnd]))
      (height + 1) (.sequence (items.map Prod.snd)) := by
  refine ⟨⟨_, _, rfl, rfl⟩, ?_⟩
  intro tokens htokens
  obtain ⟨⟨kind, mark⟩, others, rfl, hkind, hothers⟩ := List.map_eq_cons_iff.mp htokens
  obtain rfl : kind = .blockSequenceStart := hkind
  obtain ⟨inner, last, rfl, hinner, hlast⟩ := List.map_eq_append_iff.mp hothers
  obtain ⟨⟨kind, stop⟩, none, rfl, hkind, hnone⟩ := List.map_eq_cons_iff.mp hlast
  obtain rfl : kind = .blockEnd := hkind
  obtain rfl : none = [] := List.map_eq_nil_iff.mp hnone
  obtain ⟨events, nodes, hbuilds, hnodes, hrun⟩ := exists_run_blockItems hitems hinner
  refine ⟨.sequenceStart { mark } :: (events ++ [.sequenceEnd]), .sequence { mark } nodes, ?_,
    hbuilds.sequence _, Resolves.sequence hnodes mark⟩
  intro calls indentless reader rest hcalls hreader
  simp only [List.length_cons, List.length_append, List.length_nil] at hcalls
  obtain ⟨calls, rfl⟩ : ∃ c, calls = c + 1 := ⟨calls - 1, by omega⟩
  rw [List.cons_append, List.append_assoc] at hreader
  rw [EventReader.run_node_sequence hreader, hrun calls _ stop rest (by omega) rfl,
    EventReader.after_after]
  rfl

/-- The kinds of the tokens of a key and its value. -/
def Member.tokenKinds (member : Member) : List TokenKind :=
  .key :: .scalar member.key true :: .value :: member.kinds

/-- The pairs of a block mapping are read one after the other. -/
theorem exists_run_blockPairs
    {height : Nat} {members : List Member} {tokens : List Token}
    (hvalues : ∀ member ∈ members, IsContent member.kinds height member.value)
    (hkeys : ∀ member ∈ members, plainValue member.key = .ok (.string member.key))
    (htokens : tokens.map Token.kind = members.flatMap Member.tokenKinds) :
    ∃ events pairs, Builds events (pairs.flatMap fun pair => [pair.1, pair.2]) ∧
      List.Forall₂ (Member.IsPair height) pairs members ∧
      ∀ (calls : Nat) (reader : EventReader) (mark : Mark) (rest : List Token),
        3 * tokens.length + 3 ≤ calls →
          reader.tokens = tokens ++ { kind := .blockEnd, mark } :: rest →
            (EventReader.blockPairs calls).run reader =
              (.ok (), reader.after rest (events ++ [.mappingEnd])) := by
  induction members generalizing tokens with
  | nil =>
      obtain rfl : tokens = [] := List.map_eq_nil_iff.mp htokens
      refine ⟨[], [], fun _ => rfl, List.Forall₂.nil, ?_⟩
      intro calls reader mark rest hcalls hreader
      obtain ⟨calls, rfl⟩ : ∃ c, calls = c + 1 := ⟨calls - 1, by omega⟩
      exact EventReader.run_blockPairs_end hreader
  | cons member members ih =>
      rw [List.flatMap_cons, Member.tokenKinds, List.cons_append, List.cons_append,
        List.cons_append] at htokens
      obtain ⟨⟨kind, keyMark⟩, others, rfl, hkind, hothers⟩ := List.map_eq_cons_iff.mp htokens
      obtain rfl : kind = .key := hkind
      obtain ⟨name, others, rfl, hname, hothers⟩ := List.map_eq_cons_iff.mp hothers
      obtain ⟨⟨kind, valueMark⟩, others, rfl, hkind, hrest⟩ := List.map_eq_cons_iff.mp hothers
      obtain rfl : kind = .value := hkind
      obtain ⟨content, others, rfl, hcontent, hothers⟩ := List.map_eq_append_iff.mp hrest
      have hkey : IsContent [.scalar member.key true] 0 (.string member.key) :=
        IsContent.scalar (hkeys member List.mem_cons_self)
      have hvalue := hvalues member List.mem_cons_self
      obtain ⟨keyEvents, keyNode, hreadsKey, hbuildsKey, hresolvesKey⟩ :=
        hkey.reads [name] (by simp [hname])
      obtain ⟨events, node, hreads, hbuilds, hresolves⟩ := hvalue.reads content hcontent
      obtain ⟨more, pairs, hmore, hpairs, hrun⟩ := ih
        (fun other hother => hvalues other (List.mem_cons_of_mem _ hother))
        (fun other hother => hkeys other (List.mem_cons_of_mem _ hother)) hothers
      obtain ⟨first, following, rfl, hopens⟩ := opensNode_head hvalue hcontent
      have hopensName : opensNode name.kind = true := by
        rw [hname]
        rfl
      refine ⟨(keyEvents ++ events) ++ more, (keyNode, node) :: pairs,
        (hbuildsKey.append hbuilds).append hmore,
        List.Forall₂.cons ⟨hresolvesKey.mono (Nat.zero_le _), hresolves⟩ hpairs, ?_⟩
      intro calls reader mark rest hcalls hreader
      simp only [List.length_cons, List.length_append] at hcalls
      obtain ⟨calls, rfl⟩ : ∃ c, calls = c + 2 := ⟨calls - 2, by omega⟩
      have hkeyRun : ∀ reader : EventReader, ∀ behind : List Token, reader.tokens = name :: behind →
          (EventReader.blockMember (calls + 1)).run reader =
            (.ok (), reader.after behind keyEvents) := by
        intro reader behind hbehind
        rw [EventReader.run_blockMember hbehind hopensName]
        exact hreadsKey calls true reader behind (by simp only [List.length_singleton]; omega)
          hbehind
      have hvalueRun : ∀ reader : EventReader, ∀ behind : List Token,
          reader.tokens = (first :: following) ++ behind →
            (EventReader.blockMember (calls + 1)).run reader =
              (.ok (), reader.after behind events) := by
        intro reader behind hbehind
        rw [EventReader.run_blockMember hbehind hopens]
        exact hreads calls true reader behind (by simp only [List.length_cons]; omega) hbehind
      rw [EventReader.run_blockPairs_key hreader,
        EventReader.run_bind (hkeyRun _ _ rfl), EventReader.run_value rfl,
        EventReader.run_bind (hvalueRun _ (others ++ { kind := .blockEnd, mark } :: rest)
          (by simp [EventReader.after])),
        hrun (calls + 1) _ mark rest (by omega) rfl]
      simp [EventReader.after_after]

/-- **Block mappings are read as their entries.** -/
theorem IsContent.mapping
    {height : Nat} {members : List Member}
    (hvalues : ∀ member ∈ members, IsContent member.kinds height member.value)
    (hkeys : ∀ member ∈ members, plainValue member.key = .ok (.string member.key))
    (hnodup : (members.map Member.key).Nodup) :
    IsContent (.blockMappingStart :: (members.flatMap Member.tokenKinds ++ [.blockEnd]))
      (height + 1) (.mapping (members.map Member.entry)) := by
  refine ⟨⟨_, _, rfl, rfl⟩, ?_⟩
  intro tokens htokens
  obtain ⟨⟨kind, mark⟩, others, rfl, hkind, hothers⟩ := List.map_eq_cons_iff.mp htokens
  obtain rfl : kind = .blockMappingStart := hkind
  obtain ⟨inner, last, rfl, hinner, hlast⟩ := List.map_eq_append_iff.mp hothers
  obtain ⟨⟨kind, stop⟩, none, rfl, hkind, hnone⟩ := List.map_eq_cons_iff.mp hlast
  obtain rfl : kind = .blockEnd := hkind
  obtain rfl : none = [] := List.map_eq_nil_iff.mp hnone
  obtain ⟨events, pairs, hbuilds, hpairs, hrun⟩ := exists_run_blockPairs hvalues hkeys hinner
  refine ⟨.mappingStart { mark } :: (events ++ [.mappingEnd]), .mapping { mark } pairs, ?_,
    hbuilds.mapping _, Resolves.mapping hpairs hnodup mark⟩
  intro calls indentless reader rest hcalls hreader
  simp only [List.length_cons, List.length_append, List.length_nil] at hcalls
  obtain ⟨calls, rfl⟩ : ∃ c, calls = c + 1 := ⟨calls - 1, by omega⟩
  rw [List.cons_append, List.append_assoc] at hreader
  rw [EventReader.run_node_mapping hreader, hrun calls _ stop rest (by omega) rfl,
    EventReader.after_after]
  rfl

end Contents

section Documents

/-- A document begins with its node. -/
theorem run_document
    {calls : Nat} {reader : EventReader} {first : Token} {rest : List Token}
    (h : reader.tokens = first :: rest)
    (hfirst : opensNode first.kind = true) :
    (EventReader.document calls).run reader =
      (EventReader.node calls true false >>= fun _ => do
        if (← EventReader.peek).kind = .documentEnd then EventReader.skip).run reader := by
  obtain ⟨tokens, fault, handles, anchors, events⟩ := reader
  obtain rfl : tokens = _ := h
  obtain ⟨kind, place⟩ := first
  cases kind with
  | scalar text plain =>
      rfl
  | blockSequenceStart =>
      rfl
  | blockMappingStart =>
      rfl
  | _ =>
      cases hfirst

/-- **A text with the tokens of a block collection has its value.** -/
theorem ofText_of_isContent
    {text : String} {tokens : List Token} {kinds : List TokenKind} {height : Nat} {value : Value}
    (hcontent : IsContent kinds height value)
    (hheight : height ≤ nestingLimit)
    (hscan : TokenStream.ofText text = { tokens, fault := none })
    (hkinds : tokens.map Token.kind = kinds ++ [.streamEnd]) :
    Value.ofText text = .ok value := by
  obtain ⟨content, last, rfl, hmap, hlast⟩ := List.map_eq_append_iff.mp hkinds
  obtain ⟨⟨kind, mark⟩, none, rfl, hkind, hnone⟩ := List.map_eq_cons_iff.mp hlast
  obtain rfl : kind = .streamEnd := hkind
  obtain rfl : none = [] := List.map_eq_nil_iff.mp hnone
  obtain ⟨events, node, hreads, hbuilds, hresolves⟩ := hcontent.reads content hmap
  obtain ⟨first, following, hfirst, hopens⟩ := opensNode_head hcontent hmap
  have hroot : Node.ofEvents events = node := by
    rw [Node.ofEvents, hbuilds]
    rfl
  have hevents : events.isEmpty = false := by
    cases events with
    | nil =>
        have hroots := congrArg Node.Growth.root (hbuilds {})
        cases hroots
    | cons event rest =>
        rfl
  have hstream : EventStream.ofTokens
      { tokens := content ++ [{ kind := .streamEnd, mark }], fault := none } =
        { events, fault := none, continued := false } := by
    have hrun : (EventReader.document
        (3 * (content ++ [({ kind := .streamEnd, mark } : Token)]).length + 3)).run
          { tokens := content ++ [{ kind := .streamEnd, mark }], fault := none } =
        (.ok (), EventReader.after
          { tokens := content ++ [{ kind := .streamEnd, mark }], fault := none }
          [{ kind := .streamEnd, mark }] events) := by
      rw [run_document (by rw [hfirst]; rfl) hopens, EventReader.run_bind
        (hreads _ false _ [{ kind := .streamEnd, mark }] (by simp; omega) rfl)]
      rfl
    rw [EventStream.ofTokens, hrun]
    simp [EventReader.after]
  rw [Value.ofText, hscan, hstream]
  simp only [hevents, hroot, Bool.false_and, Bool.false_eq_true, if_false]
  have hrun : ∀ around : Surroundings,
      (around.resolve nestingLimit false node).run' 0 = .ok value := by
    intro around
    have hvalue := hresolves around nestingLimit 0 hheight
    change Prod.fst <$> (around.resolve nestingLimit false node).run 0 = _
    rw [hvalue]
    rfl
  rw [hrun]
  rfl

end Documents

end Yaml
end EpaperLayout
