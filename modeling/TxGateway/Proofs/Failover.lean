import TxGateway.Rpc.Provider
import TxGateway.Table
import Mathlib.Data.Nat.Init

/-!
# Failover reaches a healthy node

Calls put their questions to the nodes of a chain side by side, and they share the active node:
whoever finds a node in trouble makes the next one active, wherever the others have got to. A
reading call asks as often as there are nodes. If one node answers everything that is put to it,
the call gets its answer, unless the active node moves on from that node while the call is under
way. This can only come from a request that another node fails late, so a call alone always gets
its answer.
-/

namespace TxGateway.Rpc

/-- Whether a question is that of a reading call. -/
def Question.isRead : Question → Bool
  | blockNumber | count _ | receipt _ | transaction _ => true
  | _ => false

/-- The reply of a node is an answer to the question of a reading call. -/
def NodeReply.Fits (r : NodeReply) (q : Question) : Prop :=
  match q, r with
  | .blockNumber, .number n | .count _, .number n => n.toNat < Nat.pow 2 64
  | .receipt _, .receipt _ => True
  | .transaction _, .transaction body => ∀ b ∈ body, b.nonce < Nat.pow 2 64
  | _, _ => False

/-- What a reading call gives back is an answer to its question, and no failure or crash. -/
def Answers (q : Question) (a : Reply) : Prop :=
  match q, a with
  | .blockNumber, .count _ | .count _, .count _ | .receipt _, .receipt _
  | .transaction _, .transaction _ => True
  | _, _ => False

/-- What fits a question is taken for its answer. -/
theorem Provider.answers_meaning (p : Provider) {q : Question} {r : NodeReply} (h : r.Fits q) :
    Answers q (p.meaning q r) := by
  have hcounter : ∀ n : Word, n.toNat < Nat.pow 2 64 → counter n = .count n.toNat :=
    fun n hn => if_pos hn
  cases q with
  | blockNumber =>
      cases r with
      | number n =>
          simp only [meaning, hcounter n h]
          trivial
      | _ => exact h.elim
  | count a =>
      cases r with
      | number n =>
          simp only [meaning, hcounter n h]
          trivial
      | _ => exact h.elim
  | receipt k =>
      cases r with
      | receipt receipt => trivial
      | _ => exact h.elim
  | transaction k =>
      cases r with
      | transaction body =>
          have hall : (body.all fun b => decide (b.nonce < Nat.pow 2 64)) = true := by
            cases body with
            | none => rfl
            | some b => exact decide_eq_true (h b rfl)
          simp only [meaning, hall, if_true]
          trivial
      | _ => exact h.elim
  | _ => exact h.elim

/-- How many times the active one of so many nodes has to move on, to come from one to another. -/
def hops (size n h : Nat) : Nat := if n ≤ h then h - n else h + size - n

section

variable {size n h : Nat}

theorem hops_self (size h : Nat) : hops size h h = 0 := by simp [hops]

theorem hops_lt (hn : n < size) (hh : h < size) : hops size n h < size := by
  simp only [hops]
  split <;> omega

theorem hops_pos (hn : n < size) (hne : n ≠ h) : 0 < hops size n h := by
  simp only [hops]
  split <;> omega

end

namespace Nodes

variable {ns : Nodes} {h : Nat}

theorem current_lt (ns : Nodes) : ns.current < ns.size := Nat.mod_lt _ ns.pos

@[simp] theorem size_failover (ns : Nodes) : ns.failover.size = ns.size := rfl

theorem current_failover (ns : Nodes) : ns.failover.current = (ns.current + 1) % ns.size := by
  simp only [current, failover, Nat.mod_mod, Nat.mod_add_mod]

/-- Unless it is there, the active node comes nearer to a node by moving on. -/
theorem hops_failover (hh : h < ns.size) (hne : ns.current ≠ h) :
    hops ns.size ns.failover.current h + 1 = hops ns.size ns.current h := by
  have hlt := ns.current_lt
  rw [current_failover]
  by_cases hlast : ns.current + 1 < ns.size
  · rw [Nat.mod_eq_of_lt hlast]
    simp only [hops]
    split <;> split <;> omega
  · rw [show ns.current + 1 = ns.size by omega, Nat.mod_self]
    simp only [hops]
    split <;> split <;> omega

end Nodes

namespace Provider

variable {p : Provider} {q : Question} {left : Nat} {asHealth : Bool} {reply : NodeReply}

theorem resume_of_answered (h : reply.trouble? = none) :
    p.resume (.repeated q left asHealth) reply =
      (p, .ended (if asHealth then health (p.meaning q reply) else p.meaning q reply)) := by
  simp only [resume, h]

theorem resume_of_trouble {detail : String} (h : reply.trouble? = some detail) :
    p.resume (.repeated q left asHealth) reply =
      (p.failover,
        if 1 < left then .waiting (.repeated q (left - 1) asHealth)
        else .ended
          (if asHealth then .health false else .failed (.network q.operation detail))) := by
  simp only [resume, h]
  split <;> rfl

/-- A question that is put once leaves the active node where it is. -/
theorem resume_once (p : Provider) (q : Question) (reply : NodeReply) :
    ∃ a, p.resume (.once q) reply = (p, .ended a) := by
  simp only [resume]
  split <;> exact ⟨_, rfl⟩

/-- The answer of a node leaves the active node where it is, or makes the next one active. -/
theorem resume_fst (p : Provider) (i : Inquiry) (reply : NodeReply) :
    (p.resume i reply).1 = p ∨
      reply.trouble? ≠ none ∧ (p.resume i reply).1 = p.failover := by
  cases i with
  | once q =>
      obtain ⟨a, ha⟩ := p.resume_once q reply
      exact .inl (congrArg Prod.fst ha)
  | repeated q left asHealth =>
      cases htrouble : reply.trouble? with
      | none => exact .inl (congrArg Prod.fst (resume_of_answered htrouble))
      | some detail =>
          exact .inr ⟨Option.some_ne_none detail, congrArg Prod.fst (resume_of_trouble htrouble)⟩

/-- Nodes that answer as given, one of which answers the question, fitting it. -/
theorem run_of_healthy {node : Nat → Question → NodeReply} {h : Nat}
    (hserves : (node h q).trouble? = none)
    (hfits : ∀ n, (node n q).trouble? = none → (node n q).Fits q) {fuel : Nat}
    (hh : h < p.nodes.size) (hleft : hops p.nodes.size p.nodes.current h < left)
    (hfuel : left ≤ fuel) :
    ∃ a, (p.run node fuel (.repeated q left false)).2 = some a ∧ Answers q a := by
  induction fuel generalizing p left with
  | zero => omega
  | succ fuel ih =>
      cases htrouble : (node p.nodes.current q).trouble? with
      | none =>
          refine ⟨p.meaning q (node p.nodes.current q), ?_, p.answers_meaning (hfits _ htrouble)⟩
          simp only [run, Inquiry.question, resume_of_answered htrouble]
          rfl
      | some detail =>
          have hne : p.nodes.current ≠ h := by
            rintro rfl
            rw [hserves] at htrouble
            cases htrouble
          have hnear := Nodes.hops_failover hh hne
          have hmore : 1 < left := by omega
          simp only [run, Inquiry.question, resume_of_trouble htrouble, if_pos hmore]
          apply ih (p := p.failover) hh
          · change hops p.nodes.size p.nodes.failover.current h < left - 1
            omega
          · omega

/-- A reading call whose requests are not crossed by others gets an answer to its question, if some
node answers it. -/
theorem answer_of_healthy {node : Nat → Question → NodeReply} {h : Nat} (hh : h < p.nodes.size)
    (hserves : (node h q).trouble? = none)
    (hfits : ∀ n, (node n q).trouble? = none → (node n q).Fits q) :
    ∃ a, (p.answer node (p.reading q)).2 = some a ∧ Answers q a :=
  run_of_healthy hserves hfits hh (hops_lt p.nodes.current_lt hh) (Nat.le_succ _)

end Provider

/-- A request on its way. -/
structure Flight where
  /-- The question that it puts, and how often it may be put. -/
  inquiry : Inquiry
  /-- The node that it was sent to. -/
  node : Nat

/-- Calls that put their questions side by side. -/
structure Traffic where
  /-- The chain, whose nodes they share. -/
  provider : Provider
  /-- The requests on their way, by the number of their call. -/
  flights : Table Nat Flight := ∅
  /-- How many calls have begun. -/
  opened : Nat := 0

/-- What can happen to calls that put their questions side by side. -/
inductive Traffic.Event
  /-- A call begins. -/
  | ask (inquiry : Inquiry)
  /-- A call hears from the node that it has sent its request to. -/
  | hear (call : Nat) (reply : NodeReply)
  /-- A call is dropped. -/
  | drop (call : Nat)

namespace Traffic

/-- Sends a request of a call to the active node. -/
def send (t : Traffic) (call : Nat) (i : Inquiry) : Traffic :=
  { t with flights := t.flights.set call ⟨i, t.provider.nodes.current⟩ }

/-- What follows from an event, and the call that ends with it, with what it gives back. -/
def step (t : Traffic) : Event → Traffic × Option (Nat × Reply)
  | .ask i => ({ t.send t.opened i with opened := t.opened + 1 }, none)
  | .hear call reply => match t.flights.get? call with
    | none => (t, none)
    | some f => match t.provider.resume f.inquiry reply with
      | (p, .waiting i) => (send { t with provider := p } call i, none)
      | (p, .ended a) =>
        ({ t with provider := p, flights := t.flights.erase call }, some (call, a))
  | .drop call => ({ t with flights := t.flights.erase call }, none)

/-- The calls after a list of events, none of them under way at first. -/
def after (p : Provider) (es : List Event) : Traffic :=
  es.foldl (fun t e => (t.step e).1) { provider := p }

/-- The calls in a run just before an event with a number. -/
def upTo (p : Provider) (es : List Event) (k : Nat) : Traffic := after p (es.take k)

/-- Something happens with an event of a run that has a number. -/
def At (p : Provider) (es : List Event) (k : Nat) (happens : Traffic → Event → Prop) : Prop :=
  ∃ e, es[k]? = some e ∧ happens (upTo p es k) e

/-- A node answers what it is asked. -/
def Serves (h : Nat) (t : Traffic) (e : Event) : Prop :=
  ∀ call reply f, e = .hear call reply → t.flights.get? call = some f → f.node = h →
    reply.trouble? = none

/-- An answer to a reading call fits its question. -/
def Fitting (t : Traffic) (e : Event) : Prop :=
  ∀ call reply f, e = .hear call reply → t.flights.get? call = some f → reply.trouble? = none →
    f.inquiry.question.isRead = true → reply.Fits f.inquiry.question

/-- A call gives back something. -/
def Gives (call : Nat) (a : Reply) (t : Traffic) (e : Event) : Prop :=
  (t.step e).2 = some (call, a)

/-- The active node is a given one and moves on from there, since a request that was sent to another
node has failed. -/
def Leaves (h : Nat) (t : Traffic) (e : Event) : Prop :=
  t.provider.nodes.current = h ∧ (t.step e).1.provider.nodes.current ≠ h ∧
    ∃ call reply f, e = .hear call reply ∧ t.flights.get? call = some f ∧ f.node ≠ h ∧
      reply.trouble? ≠ none

/-- Whether a call hears from a node. -/
def Event.isHeardBy (c : Nat) : Event → Bool
  | hear call _ => call == c
  | _ => false

/-- How often a call hears from a node between two events of a run. -/
def heard (c : Nat) (es : List Event) (i j : Nat) : Nat :=
  ((es.take j).drop (i + 1)).countP (·.isHeardBy c)

/-- A call that is alone hears what the active node answers to its requests, until it ends. -/
def alone (node : Nat → Question → NodeReply) (c : Nat) : (fuel : Nat) → Traffic →
    Traffic × Option Reply
  | 0, t => (t, none)
  | fuel + 1, t => match t.flights.get? c with
    | none => (t, none)
    | some f => match t.step (.hear c (node f.node f.inquiry.question)) with
      | (t, some (_, a)) => (t, some a)
      | (t, none) => alone node c fuel t

section

variable {p : Provider} {t : Traffic} {e : Event} {es : List Event} {h c i j k : Nat} {q : Question}
  {left n : Nat}

/-- An event leaves the active node where it is, or a request has failed and the next one becomes
active. -/
theorem provider_step (t : Traffic) (e : Event) :
    (t.step e).1.provider = t.provider ∨
      (∃ call reply f, e = .hear call reply ∧ t.flights.get? call = some f ∧
        reply.trouble? ≠ none) ∧ (t.step e).1.provider = t.provider.failover := by
  cases e with
  | ask i => exact .inl rfl
  | drop call => exact .inl rfl
  | hear call reply =>
      cases hf : t.flights.get? call with
      | none => exact .inl (by simp only [step, hf])
      | some f =>
          have hfst : (t.step (.hear call reply)).1.provider =
              (t.provider.resume f.inquiry reply).1 := by
            simp only [step, hf]
            split <;> simp [send, *]
          rw [hfst]
          rcases t.provider.resume_fst f.inquiry reply with hsame | ⟨htrouble, hnext⟩
          · exact .inl hsame
          · exact .inr ⟨⟨call, reply, f, rfl, hf, htrouble⟩, hnext⟩

theorem size_step (t : Traffic) (e : Event) :
    (t.step e).1.provider.nodes.size = t.provider.nodes.size := by
  rcases t.provider_step e with hsame | ⟨-, hnext⟩
  · rw [hsame]
  · rw [hnext]
    rfl

/-- Unless it leaves a node that serves, the active node comes no farther from it. -/
theorem hops_step (hh : h < t.provider.nodes.size) (hserves : Serves h t e)
    (hstays : ¬ Leaves h t e) :
    hops t.provider.nodes.size (t.step e).1.provider.nodes.current h ≤
      hops t.provider.nodes.size t.provider.nodes.current h := by
  rcases t.provider_step e with hsame | ⟨⟨call, reply, f, heq, hf, htrouble⟩, hnext⟩
  · exact Nat.le_of_eq (by rw [hsame])
  · by_cases hhere : (t.step e).1.provider.nodes.current = h
    · rw [hhere, hops_self]
      exact Nat.zero_le _
    · have hnode : f.node ≠ h := fun hnode => htrouble (hserves call reply f heq hf hnode)
      have hne : t.provider.nodes.current ≠ h := fun hcurrent =>
        hstays ⟨hcurrent, hhere, call, reply, f, heq, hf, hnode, htrouble⟩
      have hnear := Nodes.hops_failover hh hne
      rw [hnext]
      change hops _ t.provider.nodes.failover.current h ≤ _
      omega

/-- Only a call itself hears from its node or is dropped; the others leave its request alone. -/
theorem get?_step (hc : c < t.opened) (hheard : e.isHeardBy c = false) (hdrop : e ≠ .drop c) :
    (t.step e).1.flights.get? c = t.flights.get? c := by
  cases e with
  | ask i =>
      simp only [step, send, Table.get?_set]
      exact if_neg (Nat.ne_of_lt hc)
  | drop call =>
      simp only [step, Table.get?_erase]
      have hne : c ≠ call := fun heq => hdrop (congrArg Event.drop heq.symm)
      exact if_neg hne
  | hear call reply =>
      have hne : c ≠ call := by
        rintro rfl
        simp [Event.isHeardBy] at hheard
      simp only [step]
      split
      · rfl
      · split
        · simp only [send, Table.get?_set, if_neg hne]
        · simp only [Table.get?_erase, if_neg hne]

theorem opened_step (t : Traffic) (e : Event) : t.opened ≤ (t.step e).1.opened := by
  cases e with
  | ask i => exact Nat.le_succ _
  | drop call => exact Nat.le_refl _
  | hear call reply =>
      simp only [step]
      split
      · exact Nat.le_refl _
      · split <;> exact Nat.le_refl _

theorem step_of_answered {reply : NodeReply}
    (hf : t.flights.get? c = some ⟨.repeated q left false, n⟩) (hanswer : reply.trouble? = none) :
    (t.step (.hear c reply)).2 = some (c, t.provider.meaning q reply) := by
  simp only [step, hf, Provider.resume_of_answered hanswer]
  rfl

/-- A request that fails is made again, to the next node, as long as that is allowed. -/
theorem get?_step_of_trouble {reply : NodeReply}
    (hf : t.flights.get? c = some ⟨.repeated q left false, n⟩) (htrouble : reply.trouble? ≠ none)
    (hmore : 1 < left) :
    (t.step (.hear c reply)).1.flights.get? c =
        some ⟨.repeated q (left - 1) false, (t.step (.hear c reply)).1.provider.nodes.current⟩ ∧
      (t.step (.hear c reply)).1.provider = t.provider.failover := by
  obtain ⟨detail, hdetail⟩ := Option.ne_none_iff_exists'.mp htrouble
  have hresume : t.provider.resume (.repeated q left false) reply =
      (t.provider.failover, .waiting (.repeated q (left - 1) false)) := by
    rw [Provider.resume_of_trouble hdetail, if_pos hmore]
  simp only [step, hf, hresume, send, Table.get?_set_self, and_self]

theorem step_of_last {reply : NodeReply}
    (hf : t.flights.get? c = some ⟨.repeated q left false, n⟩) (htrouble : reply.trouble? ≠ none)
    (hlast : ¬ 1 < left) :
    ∃ f, (t.step (.hear c reply)).2 = some (c, .failed f) := by
  obtain ⟨detail, hdetail⟩ := Option.ne_none_iff_exists'.mp htrouble
  have hresume : t.provider.resume (.repeated q left false) reply =
      (t.provider.failover, .ended (.failed (.network q.operation detail))) := by
    rw [Provider.resume_of_trouble hdetail, if_neg hlast]
    rfl
  simp only [step, hf, hresume]
  exact ⟨_, rfl⟩

/-- A call that is alone puts its question to the nodes one after another. -/
theorem alone_eq_run (node : Nat → Question → NodeReply) {i : Inquiry} (fuel : Nat)
    (hf : t.flights.get? c = some ⟨i, t.provider.nodes.current⟩) :
    ((t.alone node c fuel).1.provider, (t.alone node c fuel).2) = t.provider.run node fuel i := by
  induction fuel generalizing t i with
  | zero => rfl
  | succ fuel ih =>
      cases hresume : t.provider.resume i (node t.provider.nodes.current i.question) with
      | mk p x =>
          cases x with
          | ended a => simp only [alone, hf, step, Provider.run, hresume]
          | waiting i' =>
              have hnext : (send { t with provider := p } c i').flights.get? c =
                  some ⟨i', p.nodes.current⟩ := Table.get?_set_self _ _ _
              simp only [alone, hf, step, Provider.run, hresume]
              exact ih hnext

/-- The first call, alone, gives back what the nodes answer to its question. -/
theorem alone_eq_answer (p : Provider) (node : Nat → Question → NodeReply) (i : Inquiry) :
    (alone node 0 (p.nodes.size + 1) (upTo p [.ask i] 1)).2 = (p.answer node i).2 :=
  congrArg Prod.snd (alone_eq_run node (p.nodes.size + 1) (Table.get?_set_self _ _ _))

theorem upTo_succ (he : es[k]? = some e) : upTo p es (k + 1) = ((upTo p es k).step e).1 := by
  obtain ⟨hk, he⟩ := List.getElem?_eq_some_iff.mp he
  rw [upTo, List.take_succ_eq_append_getElem hk, he]
  simp only [after, List.foldl_append, List.foldl_cons, List.foldl_nil]
  rfl

theorem size_upTo (p : Provider) (es : List Event) (k : Nat) :
    (upTo p es k).provider.nodes.size = p.nodes.size := by
  induction k with
  | zero => rfl
  | succ k ih =>
      cases he : es[k]? with
      | none =>
          have hk : es.length ≤ k := List.getElem?_eq_none_iff.mp he
          rw [upTo, List.take_of_length_le (Nat.le_succ_of_le hk),
            ← List.take_of_length_le hk]
          exact ih
      | some e =>
          rw [upTo_succ he, size_step]
          exact ih

theorem heard_succ (c : Nat) (hij : i < j) (he : es[j]? = some e) :
    heard c es i (j + 1) = heard c es i j + if e.isHeardBy c then 1 else 0 := by
  obtain ⟨hj, rfl⟩ := List.getElem?_eq_some_iff.mp he
  have hlength : i + 1 ≤ (es.take j).length := by
    rw [List.length_take]
    omega
  rw [heard, List.take_succ_eq_append_getElem hj, List.drop_append_of_le_length hlength,
    List.countP_append, List.countP_singleton]
  rfl

/-- How a reading call, begun with an event of a run, goes on before a later one: it may still make
its request so often, and comes to a node with that, unless the active node has moved on from
there. -/
structure Searches (p : Provider) (es : List Event) (h : Nat) (q : Question) (c i j left n : Nat) :
    Prop where
  /-- It has sent a request to a node. -/
  flight : (upTo p es j).flights.get? c = some ⟨.repeated q left false, n⟩
  /-- It has begun. -/
  begun : c < (upTo p es j).opened
  /-- There is such a node. -/
  lt : n < p.nodes.size
  /-- It has failed as often as it has heard from a node. -/
  left_add : left + heard c es i j = p.nodes.size
  /-- It may make a request. -/
  pos : 0 < left
  /-- The node that it looks for is near enough, and the active node is not behind. -/
  near : (hops p.nodes.size n h < left ∧
      hops p.nodes.size (upTo p es j).provider.nodes.current h ≤ hops p.nodes.size n h) ∨
    ∃ l, i < l ∧ l < j ∧ At p es l (Leaves h)

/-- How a reading call, begun with an event of a run, has ended before a later one. -/
inductive Ended (p : Provider) (es : List Event) (h : Nat) (q : Question) (c i j : Nat) : Prop
  /-- It was dropped. -/
  | dropped (l : Nat) (gt : i < l) (lt : l < j) (drop : es[l]? = some (.drop c))
  /-- It has given back an answer to its question, unless the active node had moved on from the
  healthy one. -/
  | returned (l : Nat) (gt : i < l) (lt : l < j) (a : Reply) (gives : At p es l (Gives c a))
      (answers : Answers q a ∨ ∃ m, i < m ∧ m < l ∧ At p es m (Leaves h))

/-- A reading call begins by sending its request to the active node. -/
theorem searches_of_ask (hh : h < p.nodes.size) (hask : es[i]? = some (.ask (p.reading q))) :
    Searches p es h q (upTo p es i).opened i (i + 1) p.nodes.size
      (upTo p es i).provider.nodes.current where
  flight := by
    rw [upTo_succ hask]
    exact Table.get?_set_self _ _ _
  begun := by
    rw [upTo_succ hask]
    exact Nat.lt_succ_self _
  lt := size_upTo p es i ▸ Nodes.current_lt _
  left_add := by
    have hlength : (es.take (i + 1)).length ≤ i + 1 := List.length_take_le _ _
    simp [heard, List.drop_eq_nil_of_le hlength]
  pos := p.nodes.pos
  near := by
    have hlt : (upTo p es i).provider.nodes.current < p.nodes.size :=
      size_upTo p es i ▸ Nodes.current_lt _
    refine .inl ⟨hops_lt hlt hh, ?_⟩
    rw [upTo_succ hask]
    exact Nat.le_refl _

/-- A request that fails brings the call one step nearer to a healthy node, unless the active node
moves on from there. -/
theorem Searches.near_of_trouble {reply : NodeReply} (hs : Searches p es h q c i j left n)
    (hij : i < j) (he : es[j]? = some (.hear c reply)) (hh : h < p.nodes.size)
    (hserves : Serves h (upTo p es j) (.hear c reply)) (htrouble : reply.trouble? ≠ none)
    (hmore : 1 < left)
    (hnext : (upTo p es (j + 1)).provider = (upTo p es j).provider.failover) :
    hops p.nodes.size (upTo p es (j + 1)).provider.nodes.current h < left - 1 ∨
      ∃ l, i < l ∧ l < j + 1 ∧ At p es l (Leaves h) := by
  have hnode : n ≠ h := fun hnode => htrouble (hserves c reply _ rfl hs.flight hnode)
  rcases hs.near with ⟨hnear, hbehind⟩ | ⟨l, hil, hlj, hleaves⟩
  · by_cases hhere : (upTo p es (j + 1)).provider.nodes.current = h
    · rw [hhere, hops_self]
      exact .inl (Nat.sub_pos_of_lt hmore)
    · by_cases hcurrent : (upTo p es j).provider.nodes.current = h
      · rw [upTo_succ he] at hhere
        exact .inr ⟨j, hij, Nat.lt_succ_self j, _, he, hcurrent, hhere, c, reply, _, rfl, hs.flight,
          hnode, htrouble⟩
      · have hsize := size_upTo p es j
        have hcloser := Nodes.hops_failover (hsize.symm ▸ hh) hcurrent
        rw [hsize] at hcloser
        rw [hnext]
        change hops _ (upTo p es j).provider.nodes.failover.current h < left - 1 ∨ _
        exact .inl (by omega)
  · exact .inr ⟨l, hil, Nat.lt_succ_of_lt hlj, hleaves⟩

/-- What concerns other calls leaves the request of a reading call alone, and the active node comes
no farther from a healthy one, unless it moves on from there. -/
theorem Searches.pass (hs : Searches p es h q c i j left n) (hij : i < j) (he : es[j]? = some e)
    (hh : h < p.nodes.size) (hserves : Serves h (upTo p es j) e)
    (hheard : e.isHeardBy c = false) (hdrop : e ≠ .drop c) :
    Searches p es h q c i (j + 1) left n where
  flight := by
    rw [upTo_succ he, get?_step hs.begun hheard hdrop]
    exact hs.flight
  begun := by
    rw [upTo_succ he]
    exact Nat.lt_of_lt_of_le hs.begun (opened_step _ _)
  lt := hs.lt
  left_add := by
    rw [heard_succ c hij he, hheard]
    exact hs.left_add
  pos := hs.pos
  near := by
    rcases hs.near with ⟨hnear, hbehind⟩ | ⟨l, hil, hlj, hleaves⟩
    · by_cases hleaves : Leaves h (upTo p es j) e
      · exact .inr ⟨j, hij, Nat.lt_succ_self j, e, he, hleaves⟩
      · have hsize := size_upTo p es j
        have hstep := hops_step (hsize.symm ▸ hh) hserves hleaves
        rw [hsize] at hstep
        rw [upTo_succ he]
        exact .inl ⟨hnear, Nat.le_trans hstep hbehind⟩
    · exact .inr ⟨l, hil, Nat.lt_succ_of_lt hlj, hleaves⟩

/-- A reading call that may do so makes its request again when it has failed. -/
theorem Searches.retry {reply : NodeReply} (hs : Searches p es h q c i j left n) (hij : i < j)
    (he : es[j]? = some (.hear c reply)) (hh : h < p.nodes.size)
    (hserves : Serves h (upTo p es j) (.hear c reply)) (htrouble : reply.trouble? ≠ none)
    (hmore : 1 < left) :
    Searches p es h q c i (j + 1) (left - 1) (upTo p es (j + 1)).provider.nodes.current := by
  obtain ⟨hflight, hnext⟩ := get?_step_of_trouble hs.flight htrouble hmore
  rw [← upTo_succ he] at hflight hnext
  have hbegun : c < (upTo p es (j + 1)).opened := by
    rw [upTo_succ he]
    exact Nat.lt_of_lt_of_le hs.begun (opened_step _ _)
  have hleft : left - 1 + heard c es i (j + 1) = p.nodes.size := by
    have hbefore := hs.left_add
    have hself : Event.isHeardBy c (.hear c reply) = true := beq_self_eq_true c
    rw [heard_succ c hij he, if_pos hself]
    omega
  refine ⟨hflight, hbegun, size_upTo p es (j + 1) ▸ Nodes.current_lt _, hleft,
    Nat.sub_pos_of_lt hmore, ?_⟩
  rcases hs.near_of_trouble hij he hh hserves htrouble hmore hnext with hnear | hleaves
  · exact .inl ⟨hnear, Nat.le_refl _⟩
  · exact .inr hleaves

/-- A reading call that hears from its node goes on, or it ends as it should. -/
theorem Searches.hear {reply : NodeReply} (hs : Searches p es h q c i j left n) (hij : i < j)
    (he : es[j]? = some (.hear c reply)) (hh : h < p.nodes.size)
    (hserves : Serves h (upTo p es j) (.hear c reply))
    (hfits : Fitting (upTo p es j) (.hear c reply)) (hread : q.isRead = true) :
    (∃ left n, Searches p es h q c i (j + 1) left n) ∨ Ended p es h q c i (j + 1) := by
  have hlt := Nat.lt_succ_self j
  by_cases htrouble : reply.trouble? = none
  · have hanswers : Answers q ((upTo p es j).provider.meaning q reply) :=
      Provider.answers_meaning _ (hfits c reply _ rfl hs.flight htrouble hread)
    exact .inr (.returned j hij hlt _ ⟨_, he, step_of_answered hs.flight htrouble⟩ (.inl hanswers))
  · by_cases hmore : 1 < left
    · exact .inl ⟨_, _, hs.retry hij he hh hserves htrouble hmore⟩
    · obtain ⟨f, hf⟩ := step_of_last hs.flight htrouble hmore
      refine .inr (.returned j hij hlt _ ⟨_, he, hf⟩ (.inr ?_))
      rcases hs.near with ⟨hnear, -⟩ | hleaves
      · -- with its last request the call has come to the healthy node, which does not fail
        have hnode : n ≠ h := fun hnode => htrouble (hserves c reply _ rfl hs.flight hnode)
        have hfar := hops_pos hs.lt hnode
        omega
      · exact hleaves

/-- Whatever happens next, a reading call is still under way, or it has ended as it should. -/
theorem Searches.succ (hs : Searches p es h q c i j left n) (hij : i < j) (he : es[j]? = some e)
    (hh : h < p.nodes.size) (hserves : Serves h (upTo p es j) e) (hfits : Fitting (upTo p es j) e)
    (hread : q.isRead = true) :
    (∃ left n, Searches p es h q c i (j + 1) left n) ∨ Ended p es h q c i (j + 1) := by
  cases hheard : e.isHeardBy c with
  | true =>
      obtain ⟨reply, rfl⟩ : ∃ reply, e = .hear c reply := by
        cases e with
        | hear call reply => exact ⟨reply, by rw [beq_iff_eq.mp hheard]⟩
        | _ => cases hheard
      exact hs.hear hij he hh hserves hfits hread
  | false =>
      by_cases hdrop : e = .drop c
      · exact .inr (.dropped j hij (Nat.lt_succ_self j) (hdrop ▸ he))
      · exact .inl ⟨left, n, hs.pass hij he hh hserves hheard hdrop⟩

theorem Ended.succ (hended : Ended p es h q c i j) : Ended p es h q c i (j + 1) := by
  cases hended with
  | dropped l gt lt drop => exact .dropped l gt (Nat.lt_succ_of_lt lt) drop
  | returned l gt lt a gives answers => exact .returned l gt (Nat.lt_succ_of_lt lt) a gives answers

/-- Any number of calls put their questions side by side, and one node answers whatever it is asked.
A reading call that is not dropped returns when it has heard as often as there are nodes, or before.
It gives back an answer to its question, unless the active node has moved on from the healthy one in
the meantime, because a request that had been sent to another node failed only then. -/
theorem read_reaches_healthy_node (p : Provider) (hh : h < p.nodes.size)
    (hserves : ∀ k e, es[k]? = some e → Serves h (upTo p es k) e)
    (hfits : ∀ k e, es[k]? = some e → Fitting (upTo p es k) e) (hread : q.isRead = true)
    (hask : es[i]? = some (.ask (p.reading q))) (hij : i < j) (hj : j ≤ es.length) :
    let c := (upTo p es i).opened
    ((upTo p es j).flights.get? c).isSome = true ∧ heard c es i j < p.nodes.size ∨
      Ended p es h q c i j := by
  intro c
  -- the invariant is `Searches`, from the moment at which the call begins
  have hsearch : (∃ left n, Searches p es h q c i j left n) ∨ Ended p es h q c i j := by
    induction j, hij using Nat.le_induction with
    | base => exact .inl ⟨_, _, searches_of_ask hh hask⟩
    | succ j hij ih =>
        have he : es[j]? = some es[j] := List.getElem?_eq_getElem hj
        rcases ih (Nat.le_of_succ_le hj) with ⟨left, n, hs⟩ | hended
        · exact hs.succ hij he hh (hserves j _ he) (hfits j _ he) hread
        · exact .inr hended.succ
  rcases hsearch with ⟨left, n, hs⟩ | hended
  · have hleft := hs.left_add
    have hpos := hs.pos
    exact .inl ⟨by rw [hs.flight]; rfl, by omega⟩
  · exact .inr hended

end

/-- Two nodes, of which the first is active. -/
def twoNodes : Provider :=
  { settings := { chainId := 1, name := "", rpcUrls := [], strategy := .legacy,
                  maxGasPriceGwei := 300, bufferPercent := 0 }
    nodes := { size := 2, pos := Nat.two_pos } }

/-- A question for the first node, which fails; the second one answers. -/
def loneRun (q : Question) (reply : NodeReply) : List Event :=
  [.ask (twoNodes.reading q), .hear 0 (.lost ""), .hear 0 reply]

/-- Two calls ask the first node, which fails. The one that hears of it later makes it active once
more, and asks it again. -/
def crossedRun (q : Question) : List Event :=
  [.ask (twoNodes.reading q), .ask (twoNodes.reading q), .hear 0 (.lost ""), .hear 1 (.lost ""),
    .hear 1 (.lost "")]

/-- In that run the call gets its answer. -/
theorem second_node_reached :
    let q := Question.count ⟨0⟩
    let es := loneRun q (.number 7)
    1 < twoNodes.nodes.size ∧ q.isRead = true ∧ es[0]? = some (.ask (twoNodes.reading q)) ∧
      At twoNodes es 2 (Gives 0 (.count 7)) ∧
      (((upTo twoNodes es 3).flights.get? 0).isSome = true ∧ heard 0 es 0 3 < 2 ∨
        Ended twoNodes es 1 q 0 0 3) := by
  intro q es
  have hserves : ∀ k e, es[k]? = some e → Serves 1 (upTo twoNodes es k) e := by
    intro k e he call reply f heq hf hnode
    subst heq
    match k, he with
    | 1, he =>
        cases he
        cases hf
        cases hnode
    | 2, he =>
        cases he
        rfl
  have hfits : ∀ k e, es[k]? = some e → Fitting (upTo twoNodes es k) e := by
    intro k e he call reply f heq hf hanswer hread
    subst heq
    match k, he with
    | 1, he =>
        cases he
        cases hanswer
    | 2, he =>
        cases he
        cases hf
        change (7 : Word).toNat < Nat.pow 2 64
        decide
  refine ⟨by decide, rfl, rfl, ⟨_, rfl, rfl⟩, ?_⟩
  exact read_reaches_healthy_node twoNodes (i := 0) (j := 3) (by decide) hserves hfits rfl rfl
    (by decide) (by decide)

/-- A reading call can fail although a node answers whatever it is asked: of two calls that find the
first node in trouble, the later one turns back to it. And an answer that is no number of 64 bits
breaks a call off before it comes to the healthy node. -/
theorem read_misses_healthy_node :
    (let q := Question.count ⟨0⟩
     let es := crossedRun q
     (∀ k e, es[k]? = some e → Serves 1 (upTo twoNodes es k) e) ∧
       (∀ k e, es[k]? = some e → Fitting (upTo twoNodes es k) e) ∧
       es[1]? = some (.ask (twoNodes.reading q)) ∧
       At twoNodes es 4 (Gives 1 (.failed (.network "get transaction count" "")))) ∧
    (let q := Question.count ⟨0⟩
     let es := [.ask (twoNodes.reading q), .hear 0 (.number (BitVec.ofNat 256 (Nat.pow 2 64)))]
     (∀ k e, es[k]? = some e → Serves 1 (upTo twoNodes es k) e) ∧
       At twoNodes es 1 (Gives 0 (.crashed .counterOverflow))) := by
  refine ⟨⟨?_, ?_, rfl, ⟨_, rfl, rfl⟩⟩, ?_, ⟨_, rfl, rfl⟩⟩
  · intro k e he call reply f heq hf hnode
    subst heq
    match k, he with
    | 2, he | 3, he | 4, he =>
        cases he
        cases hf
        cases hnode
  · intro k e he call reply f heq hf hanswer
    subst heq
    match k, he with
    | 2, he | 3, he | 4, he =>
        cases he
        cases hanswer
  · intro k e he call reply f heq hf hnode
    subst heq
    match k, he with
    | 1, he =>
        cases he
        rfl

end Traffic

end TxGateway.Rpc
