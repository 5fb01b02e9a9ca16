import Converge.Proofs.Resource.Identity

/-!
# Histories of documents

Whoever drives the resources hands over documents, from a creation on through reads and updates
to a deletion. Written and read again, a state is about the same object; so each transition of a
history goes on with the object that the creation began with.
-/

namespace Converge

open Remote Program

namespace Resource

variable {M : Type}

/-! ## Documents -/

/-- A document is what a state about the object is written as. -/
def Writes (resource : Resource M) (identity? : M → Option Identity) (document : Json)
    (identity : Identity) : Prop :=
  ∃ state, resource.encode state = .ok document ∧ identity? state = some identity

section Documents

variable {resource : Resource M} {toJson : M → Json} {identity? : M → Option Identity}
variable {identity : Identity}

theorem Stays.toDocument (writes : Encode.Writes resource.encode toJson) {made : List Exchange}
    {tried : Option Call} {transition : Transition M}
    (stays : Stays (IsAbout identity?) identity made tried transition) :
    Stays (resource.Writes identity?) identity made tried (resource.toDocument transition) := by
  obtain ⟨state, isState, isAbout⟩ := stays.state
  refine ⟨⟨toJson state, ?_, state, writes state, isAbout⟩, stays.made, stays.tried⟩
  rw [toDocument_eq writes]
  change transition.state.map toJson = _
  rw [isState]
  rfl

theorem StaysIf.toDocument (writes : Encode.Writes resource.encode toJson) {made : List Exchange}
    {tried : Option Call} {transition : Transition M}
    (stays : StaysIf (IsAbout identity?) identity made tried transition) :
    StaysIf (resource.Writes identity?) identity made tried (resource.toDocument transition) :=
  fun echoes => (stays echoes).toDocument writes

theorem BeginsIf.toDocument (writes : Encode.Writes resource.encode toJson) {made : List Exchange}
    {tried : Option Call} {transition : Transition M}
    (begins : BeginsIf (IsAbout identity?) made tried transition) :
    BeginsIf (resource.Writes identity?) made tried (resource.toDocument transition) := by
  intro succeeded echoes
  rw [toDocument_eq writes] at succeeded
  obtain ⟨identity, creating, others, split, created, stays⟩ := begins succeeded echoes
  exact ⟨identity, creating, others, split, created, stays.toDocument writes⟩

namespace Identifying

variable (identifying : resource.Identifying toJson identity?)

include identifying

theorem ofDocument {document : Json} (writes : resource.Writes identity? document identity)
    (subject : String) :
    ∃ state, resource.ofDocument subject document = .ok state ∧
      identity? state = some identity := by
  obtain ⟨state, written, isAbout⟩ := writes
  obtain ⟨returned, decoded, same⟩ := identifying.returns state
  rw [identifying.writes, Except.ok.injEq] at written
  refine ⟨returned, ?_, same.trans isAbout⟩
  rw [Resource.ofDocument, ← written, decoded]
  rfl

theorem createDocument (desired : Json) :
    (resource.createDocument desired).Takes
      (.uniform (BeginsIf (resource.Writes identity?))) [] := by
  rw [Resource.createDocument, Resource.ofDocument]
  cases resource.decode desired with
  | error fault => exact begins_failed rfl _ _
  | ok desired =>
      refine Takes.map_uniform ?_ (identifying.create desired)
      exact BeginsIf.toDocument identifying.writes

theorem readDocument {document : Json} (writes : resource.Writes identity? document identity) :
    (resource.readDocument document).Takes
      (.uniform (StaysIf (resource.Writes identity?) identity)) [] := by
  obtain ⟨state, isState, isAbout⟩ := identifying.ofDocument writes "state"
  rw [Resource.readDocument, isState]
  refine Takes.map_uniform ?_ (identifying.read isAbout)
  exact StaysIf.toDocument identifying.writes

theorem updateDocument {document : Json} (writes : resource.Writes identity? document identity)
    (desired : Json) :
    (resource.updateDocument document desired).Takes
      (.uniform (StaysIf (resource.Writes identity?) identity)) [] := by
  obtain ⟨state, isState, isAbout⟩ := identifying.ofDocument writes "state"
  rw [Resource.updateDocument, isState]
  dsimp only
  split
  · exact stays_keeping writes _
  · refine Takes.map_uniform ?_ (identifying.update _ isAbout)
    exact StaysIf.toDocument identifying.writes

theorem deleteDocument {document : Json} (writes : resource.Writes identity? document identity) :
    (resource.deleteDocument document).Takes (.uniform (Removes identity)) [] := by
  obtain ⟨state, isState, isAbout⟩ := identifying.ofDocument writes "state"
  rw [Resource.deleteDocument, isState]
  exact identifying.delete isAbout

end Identifying

end Documents

end Resource

/-! ## Histories -/

/-- A document is created without an error, and what is returned is read and updated again and
again, whatever is desired and whatever the context does; in between anything may happen to the
remote side. The exchanges are those of all the transitions. -/
inductive Documents.History {σ : Type} (documents : Documents) (remote : Responder σ) :
    (exchanges : List Exchange) → (state : Option Json) → Prop where
  | created (desired : Json) (patience : Patience) (context : Context) (world : σ) (now : Nat)
      (succeeded :
        ((documents.create desired).run remote patience context world now).value.hasError =
          false) :
      History documents remote
        ((documents.create desired).exchanges remote patience context world now)
        ((documents.create desired).run remote patience context world now).value.state
  | read {exchanges : List Exchange} {state : Json}
      (before : History documents remote exchanges (some state)) (patience : Patience)
      (context : Context) (world : σ) (now : Nat) :
      History documents remote
        (exchanges ++ (documents.read state).exchanges remote patience context world now)
        ((documents.read state).run remote patience context world now).value.state
  | updated {exchanges : List Exchange} {observed : Json}
      (before : History documents remote exchanges (some observed)) (desired : Json)
      (patience : Patience) (context : Context) (world : σ) (now : Nat) :
      History documents remote
        (exchanges ++
          (documents.update observed desired).exchanges remote patience context world now)
        ((documents.update observed desired).run remote patience context world now).value.state

namespace Resource

variable {M : Type}

/-- The exchanges begin with the creation of the object; all others are about it, and so is the
document. -/
structure Remains (about : Json → Identity → Prop) (exchanges : List Exchange)
    (state : Option Json) (identity : Identity) (creating : Exchange) (later : List Exchange)
    (document : Json) : Prop where
  asked : demands exchanges = creating :: later
  created : creating.created? = some identity
  later : ∀ exchange ∈ later, exchange.call.target? = some identity
  state : state = some document
  about : about document identity

theorem mem_of_mem_demands {exchanges : List Exchange} {exchange : Exchange}
    (member : exchange ∈ demands exchanges) : exchange ∈ exchanges :=
  (List.mem_filter.mp member).1

/-- A transition that stays with the object adds nothing about another. -/
theorem Remains.step {about : Json → Identity → Prop} {exchanges : List Exchange}
    {state : Option Json} {identity : Identity} {creating : Exchange} {later : List Exchange}
    {document : Json} (remains : Remains about exchanges state identity creating later document)
    {others : List Exchange} {transition : Transition Json}
    (comes : Comes (StaysIf about identity) [] (demands others) transition)
    (echoes : ∀ exchange ∈ others, exchange.Echoes) :
    ∃ next, Remains about (exchanges ++ others) transition.state identity creating
      (later ++ demands others) next := by
  obtain ⟨answered, failed, tried, split, stays, _, last⟩ := comes
  have stays := stays fun exchange member =>
    echoes exchange (mem_of_mem_demands (split ▸ List.mem_append_left _ member))
  obtain ⟨next, isNext, isAbout⟩ := stays.state
  refine ⟨next, ?_, remains.created, ?_, isNext, isAbout⟩
  · rw [demands_append, remains.asked]
    rfl
  · intro exchange member
    rw [split, List.mem_append, List.mem_append] at member
    rcases member with earlier | good | bad
    · exact remains.later exchange earlier
    · exact stays.made exchange good
    · exact stays.tried _ (last exchange bad).1

/-- A creation without an error makes the object. -/
theorem remains_of_begins {about : Json → Identity → Prop} {exchanges : List Exchange}
    {transition : Transition Json}
    (comes : Comes (BeginsIf about) [] (demands exchanges) transition)
    (succeeded : transition.hasError = false)
    (echoes : ∀ exchange ∈ exchanges, exchange.Echoes) :
    ∃ identity creating later document,
      Remains about exchanges transition.state identity creating later document := by
  obtain ⟨answered, failed, tried, split, begins, _, last⟩ := comes
  obtain ⟨identity, creating, others, first, created, stays⟩ :=
    begins succeeded fun exchange member =>
      echoes exchange (mem_of_mem_demands (split ▸ List.mem_append_left _ member))
  obtain ⟨document, isDocument, isAbout⟩ := stays.state
  refine ⟨identity, creating, others ++ failed, document, ?_, created, ?_, isDocument, isAbout⟩
  · rw [split]
    exact congrArg (· ++ failed) first
  · intro exchange member
    rcases List.mem_append.mp member with good | bad
    · exact stays.made exchange good
    · exact stays.tried _ (last exchange bad).1

/-- Histories remain with the object that they begin with. -/
theorem Identifying.remains {σ : Type} {resource : Resource M} {toJson : M → Json}
    {identity? : M → Option Identity} (identifying : resource.Identifying toJson identity?)
    {remote : Responder σ}
    {exchanges : List Exchange} {state : Option Json}
    (history : resource.documents.History remote exchanges state)
    (echoes : ∀ exchange ∈ exchanges, exchange.Echoes) :
    ∃ identity creating later document,
      Remains (resource.Writes identity?) exchanges state identity creating later document := by
  induction history with
  | created desired patience context world now succeeded =>
      exact remains_of_begins
        (Program.comes (identifying.createDocument desired) remote patience context world now)
        succeeded echoes
  | read before patience context world now ih =>
      obtain ⟨identity, creating, later, document, remains⟩ :=
        ih fun exchange member => echoes exchange (List.mem_append_left _ member)
      cases remains.state
      obtain ⟨next, remains⟩ := remains.step
        (Program.comes (identifying.readDocument remains.about) remote patience context world now)
        fun exchange member => echoes exchange (List.mem_append_right _ member)
      exact ⟨identity, creating, _, next, remains⟩
  | updated before desired patience context world now ih =>
      obtain ⟨identity, creating, later, document, remains⟩ :=
        ih fun exchange member => echoes exchange (List.mem_append_left _ member)
      cases remains.state
      obtain ⟨next, remains⟩ := remains.step
        (Program.comes (identifying.updateDocument remains.about desired) remote patience context
          world now)
        fun exchange member => echoes exchange (List.mem_append_right _ member)
      exact ⟨identity, creating, _, next, remains⟩

/-- A deletion of the document asks for nothing but the object's. -/
theorem Identifying.deletes {σ : Type} {resource : Resource M} {toJson : M → Json}
    {identity? : M → Option Identity} (identifying : resource.Identifying toJson identity?)
    {document : Json} {identity : Identity}
    (writes : resource.Writes identity? document identity) (remote : Responder σ)
    (patience : Patience) (context : Context) (world : σ) (now : Nat) :
    ∀ exchange ∈ demands
        ((resource.deleteDocument document).exchanges remote patience context world now),
      exchange.call.target? = some identity := by
  obtain ⟨answered, failed, tried, split, removes, _, last⟩ :=
    Program.comes (identifying.deleteDocument writes) remote patience context world now
  intro exchange member
  rw [split, List.mem_append] at member
  rcases member with good | bad
  · exact removes.1 exchange good
  · exact removes.2 _ (last exchange bad).1

end Resource

/-- What a state of the kind is about. -/
def Kind.identity? : (kind : Kind) → kind.Model → Option Identity
  | .ledger => Resource.Ledger.identity?
  | .ledgerSchema => Resource.LedgerSchema.identity?
  | .paymentsPool => Resource.PaymentsPool.identity?
  | .paymentsConnector => Resource.PaymentsConnector.identity?
  | .webhooks => Resource.Webhook.identity?
  | .reconciliationPolicy => Resource.ReconciliationPolicy.identity?

theorem Kind.identifying (kind : Kind) :
    kind.resource.Identifying kind.toJson kind.identity? := by
  cases kind with
  | ledger => exact Resource.Ledger.identifying
  | ledgerSchema => exact Resource.LedgerSchema.identifying
  | paymentsPool => exact Resource.PaymentsPool.identifying
  | paymentsConnector => exact Resource.PaymentsConnector.identifying
  | webhooks => exact Resource.Webhook.identifying
  | reconciliationPolicy => exact Resource.ReconciliationPolicy.identifying

/-- **Identities stay.** In every history of every kind, whatever is desired, answered and
interrupted, if the remote side answers reads with the object that was asked for: of the calls
other than listings of modules the first creates an object, all others address it, and the
document that is returned in the end is about it. A deletion of that document addresses it as
well. -/
theorem Kind.identity_stays {σ : Type} {kind : Kind} {remote : Responder σ}
    {exchanges : List Exchange} {state : Option Json}
    (history : kind.documents.History remote exchanges state)
    (echoes : ∀ exchange ∈ exchanges, exchange.Echoes) :
    ∃ identity creating later document,
      demands exchanges = creating :: later ∧ creating.created? = some identity ∧
      (∀ exchange ∈ later, exchange.call.target? = some identity) ∧
      state = some document ∧ kind.identify document = some identity ∧
      ∀ (patience : Patience) (context : Context) (world : σ) (now : Nat),
        ∀ exchange ∈ demands
            ((kind.documents.delete document).exchanges remote patience context world now),
          exchange.call.target? = some identity := by
  rw [kind.documents_eq] at history ⊢
  obtain ⟨identity, creating, later, document, remains⟩ :=
    kind.identifying.remains history echoes
  refine ⟨identity, creating, later, document, remains.asked, remains.created, remains.later,
    remains.state, ?_, kind.identifying.deletes remains.about remote⟩
  obtain ⟨model, written, isAbout⟩ := remains.about
  rw [kind.encode_writes, Except.ok.injEq] at written
  have identified := kind.identifying.identify model
  rw [kind.kind_resource, written] at identified
  exact identified.trans isAbout

/-- A pool of one account with an identifier. -/
def poolOf (id account : String) : Json :=
  .ofEntries [("id", .string id), ("name", .string "savings"),
    ("accounts_ids", .array [.string account])]

/-- The stack calls a pool its first, and that it stays, whatever the caller calls it. -/
theorem Kind.identity_stays_poolOf :
    let pools := Kind.paymentsPool.documents
    let made := (pools.create (poolOf "mine" "a")).run Memory.remote .standard .free .empty 0
    let changed := (pools.update (poolOf "pool-1" "a") (poolOf "mine" "b")).run Memory.remote
      .standard .free made.world 0
    made.value.state = some (poolOf "pool-1" "a") ∧
      ∃ document, changed.value.state = some document ∧
        Kind.paymentsPool.identify document = some (.pool "pool-1") ∧
        ∀ exchange ∈ demands ((pools.delete document).exchanges Memory.remote .standard .free
            changed.world 0),
          exchange.call.target? = some (.pool "pool-1") := by
  intro pools made changed
  have created : Kind.paymentsPool.documents.History Memory.remote
      ((pools.create (poolOf "mine" "a")).exchanges Memory.remote .standard .free .empty 0)
      (some (poolOf "pool-1" "a")) :=
    .created (poolOf "mine" "a") .standard .free Memory.empty 0 (by rfl)
  have history := created.updated (poolOf "mine" "b") .standard .free made.world 0
  -- none of the five calls is a read
  have echoes : ∀ exchange ∈ (pools.create (poolOf "mine" "a")).exchanges Memory.remote .standard
      .free .empty 0 ++ (pools.update (poolOf "pool-1" "a") (poolOf "mine" "b")).exchanges
        Memory.remote .standard .free made.world 0, exchange.Echoes := by
    refine List.forall_mem_cons.mpr ⟨trivial, List.forall_mem_cons.mpr ⟨trivial,
      List.forall_mem_cons.mpr ⟨trivial, List.forall_mem_cons.mpr ⟨trivial,
        List.forall_mem_cons.mpr ⟨trivial, ?_⟩⟩⟩⟩⟩
    exact List.forall_mem_nil _
  obtain ⟨identity, creating, later, document, asked, created, _, isState, identified, deletes⟩ :=
    Kind.identity_stays history echoes
  refine ⟨rfl, document, isState, ?_⟩
  have first : creating.created? = some (.pool "pool-1") := by
    rw [← Option.some.inj (congrArg List.head? asked)]
    rfl
  rw [created] at first
  cases first
  exact ⟨identified, deletes .standard .free changed.world 0⟩

end Converge
