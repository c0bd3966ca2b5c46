/-
  Coterie.Supervisor.Delivery

  The loop that delivers notifications to a foreground process (`supervisor/notifications.rs`:
  `deliver`, `attempt`).  It asks the supervisor whether there is something to deliver, claims it,
  puts it on the provider's queue and reports the outcome; putting it there twice would be two
  notifications.

  What the loop does to the outside is its log.  `Follows` says which effect may come after which,
  apart from the reports of a new connection, and `Awaits` what the last one leaves in the state of
  the loop; one turn keeps both, whatever the connection, the queue and the other callers of the
  supervisor do.
-/

import Coterie.Base.Machine
import Coterie.Supervisor.Notifications
import Mathlib.Data.List.Chain

namespace Coterie

/-! ## The loop -/

/-- What comes of an attempt to connect: no supervisor of the run is reached, the foreground process
    cannot be identified any more, the report of that process is not accepted, or it is. -/
inductive Connecting where
  | unreached
  | processGone
  | refused
  | connected
deriving DecidableEq, Repr

/-- What becomes of a request on its way: it is answered, it or its response is lost with the
    connection, or it ends with an error that is no transient failure of the connection. -/
inductive Transit where
  | delivered
  | requestLost
  | responseLost
  | broken (served : Bool)
deriving DecidableEq, Repr

/-- What the loop meets in one turn. -/
structure Turn where
  connecting : Connecting
  transit : Transit
  now : Int
  outcome : QueueOutcome
  claimId : OperationId
  observeId : OperationId
deriving DecidableEq, Repr

/-- What the loop learns about a request. -/
inductive Reply where
  | answered (response : NotificationResponse)
  | refused
  | lost
deriving DecidableEq, Repr

/-- What the loop does to the outside. -/
inductive Effect where
  /-- The foreground process is reported to a new connection. -/
  | reported (accepted : Bool)
  | sent (request : NotificationRequest) (reply : Reply)
  /-- The claim is handed to the queue of the provider. -/
  | attempted (claim : NotificationClaim) (outcome : QueueOutcome)
deriving DecidableEq, Repr

/-- The supervisor's database and the loop. -/
structure Delivery where
  db : Db
  connected : Bool
  pending : Option NotificationRequest
  running : Bool
  log : List Effect

namespace Delivery

/-- Connect, where there is no connection. -/
def connect (turn : Turn) (delivery : Delivery) : Delivery :=
  if delivery.connected then delivery
  else
    match turn.connecting with
    | .unreached => delivery
    | .processGone => { delivery with running := false }
    | .refused => { delivery with log := delivery.log ++ [.reported false] }
    | .connected => { delivery with connected := true, log := delivery.log ++ [.reported true] }

/-- Act on a response: claim what is pending, and put on the queue what was claimed. -/
def settle (scope : SessionScope) (turn : Turn) (delivery : Delivery) :
    NotificationResponse → Delivery
  | .notifications .uncertain _ => { delivery with running := false }
  | .notifications _ true => { delivery with pending := some (.claim turn.claimId scope) }
  | .claimed (some claim) =>
      { delivery with
        pending := some (.observe turn.observeId scope claim.operationId turn.outcome)
        log := delivery.log ++ [.attempted claim turn.outcome] }
  | .notifications _ false | .claimed none | .received _ => delivery

/-- Send the pending request, which stays pending until it is answered. -/
def exchange (config : EffectiveConfig) (scope : SessionScope) (turn : Turn)
    (delivery : Delivery) : Delivery :=
  let request := delivery.pending.getD (.pending scope)
  let served := (executeNotification config scope.runId .operator false turn.now request).run
    delivery.db
  match turn.transit with
  | .requestLost =>
      { delivery with
        connected := false
        pending := some request
        log := delivery.log ++ [.sent request .lost] }
  | .responseLost =>
      { delivery with
        db := served.2
        connected := false
        pending := some request
        log := delivery.log ++ [.sent request .lost] }
  | .broken isServed =>
      { delivery with
        db := if isServed then served.2 else delivery.db
        pending := some request
        running := false
        log := delivery.log ++ [.sent request .refused] }
  | .delivered =>
      match served.1 with
      | .error _ =>
          { delivery with
            db := served.2
            pending := some request
            running := false
            log := delivery.log ++ [.sent request .refused] }
      | .ok response =>
          settle scope turn { delivery with
            db := served.2
            pending := none
            log := delivery.log ++ [.sent request (.answered response)] } response

/-- One turn of the loop. -/
def deliver (config : EffectiveConfig) (scope : SessionScope) (turn : Turn)
    (delivery : Delivery) : Delivery :=
  if delivery.running then
    let delivery := delivery.connect turn
    if delivery.running && delivery.connected then delivery.exchange config scope turn
    else delivery
  else delivery

end Delivery

/-- What happens: a turn of the loop, a notification request of anyone, or something else that
    changes the database.  Only such requests write operations of their kind; a supervisor that
    ends and starts again keeps the database. -/
inductive DeliveryInput where
  | turn (turn : Turn)
  | request (caller : AuthenticatedCaller) (ownsBridge : Bool) (now : Int)
      (request : NotificationRequest)
  | elsewhere (db : Db)

/-- A report of the foreground process. -/
def Effect.isReport : Effect → Bool
  | .reported _ => true
  | .sent _ _ | .attempted _ _ => false

/-- The effects of the loop, apart from the reports. -/
def Delivery.effects (delivery : Delivery) : List Effect :=
  delivery.log.filter (!·.isReport)

/-- Which effect may come next. -/
def Effect.Follows (scope : SessionScope) : Effect → Effect → Prop
  | .sent request .lost, next => ∃ reply, next = .sent request reply
  | .sent _ .refused, _ => False
  | .sent request (.answered response), .attempted claim _ =>
      response = .claimed (some claim) ∧
        ∃ target, request = .claim claim.operationId target
  | .sent _ (.answered response), .sent _ _ => ∀ claim, response ≠ .claimed (some claim)
  | .attempted claim outcome, next =>
      ∃ id reply, next = .sent (.observe id scope claim.operationId outcome) reply
  | .sent _ (.answered _), .reported _ | .reported _, _ => False

/-- What the last effect leaves in the state of the loop. -/
def Delivery.Awaits (scope : SessionScope) (delivery : Delivery) : Effect → Prop
  | .sent request .lost => delivery.pending = some request
  | .sent _ .refused => delivery.running = false
  | .sent _ (.answered response) => ∀ claim, response ≠ .claimed (some claim)
  | .attempted claim outcome =>
      ∃ id, delivery.pending = some (.observe id scope claim.operationId outcome)
  | .reported _ => False

/-- What holds of the loop after any turns. -/
structure Delivery.Ordered (scope : SessionScope) (delivery : Delivery) : Prop where
  recorded : delivery.db.NotificationsRecorded
  first : ∀ effect, delivery.effects.head? = some effect →
    ∃ request reply, effect = .sent request reply
  chain : delivery.effects.IsChain (Effect.Follows scope)
  last : ∀ effect, delivery.effects.getLast? = some effect → delivery.Awaits scope effect

namespace Delivery

variable {config : EffectiveConfig} {scope : SessionScope} {turn : Turn} {delivery after : Delivery}

theorem effects_log {more : List Effect} (h : after.log = delivery.log ++ more) :
    after.effects = delivery.effects ++ more.filter (!·.isReport) := by
  rw [effects, h, List.filter_append]
  rfl

theorem effects_reported {accepted : Bool} (h : after.log = delivery.log ++ [.reported accepted]) :
    after.effects = delivery.effects := by
  rw [effects_log h]
  exact List.append_nil _

/-- The request that is sent next may follow the last effect. -/
theorem Ordered.next (h : delivery.Ordered scope) (hrunning : delivery.running = true)
    {last : Effect} (hlast : delivery.effects.getLast? = some last) (reply : Reply) :
    last.Follows scope (.sent (delivery.pending.getD (.pending scope)) reply) := by
  have hawaits := h.last last hlast
  cases last with
  | reported accepted => exact hawaits
  | attempted claim outcome =>
      obtain ⟨id, hpending⟩ := hawaits
      rw [hpending]
      exact ⟨id, reply, rfl⟩
  | sent request learned =>
      cases learned with
      | answered response => exact hawaits
      | refused =>
          have hended : delivery.running = false := hawaits
          rw [hrunning] at hended
          cases hended
      | lost =>
          have hpending : delivery.pending = some request := hawaits
          rw [hpending]
          exact ⟨reply, rfl⟩

/-- The effects of a turn begin with the pending request. -/
theorem Ordered.send (h : delivery.Ordered scope) (hrunning : delivery.running = true)
    {reply : Reply} {rest : List Effect} (hrecorded : after.db.NotificationsRecorded)
    (heffects : after.effects =
      delivery.effects ++ .sent (delivery.pending.getD (.pending scope)) reply :: rest)
    (hchain : (.sent (delivery.pending.getD (.pending scope)) reply :: rest).IsChain
      (Effect.Follows scope))
    (hlast : ∀ effect, (.sent (delivery.pending.getD (.pending scope)) reply :: rest).getLast? =
      some effect → after.Awaits scope effect) : after.Ordered scope := by
  refine ⟨hrecorded, ?_, ?_, ?_⟩
  · intro effect hhead
    rw [heffects] at hhead
    cases hempty : delivery.effects with
    | nil =>
        rw [hempty] at hhead
        cases hhead
        exact ⟨_, _, rfl⟩
    | cons head others =>
        rw [hempty] at hhead
        obtain rfl := Option.some.inj hhead
        exact h.first _ (by rw [hempty]; rfl)
  · rw [heffects]
    refine h.chain.append hchain fun last hmem effect hhead => ?_
    cases hhead
    exact h.next hrunning hmem reply
  · intro effect hmem
    rw [heffects, List.getLast?_append] at hmem
    cases hlast' : (.sent (delivery.pending.getD (.pending scope)) reply :: rest).getLast? with
    | none => cases (List.getLast?_eq_none_iff.mp hlast')
    | some last =>
        rw [hlast', Option.some_or] at hmem
        obtain rfl := Option.some.inj hmem
        exact hlast _ hlast'

/-- A turn that only sends the pending request. -/
theorem Ordered.send_only (h : delivery.Ordered scope) (hrunning : delivery.running = true)
    (reply : Reply) (hrecorded : after.db.NotificationsRecorded)
    (hlog : after.log = delivery.log ++ [.sent (delivery.pending.getD (.pending scope)) reply])
    (hawaits : after.Awaits scope (.sent (delivery.pending.getD (.pending scope)) reply)) :
    after.Ordered scope := by
  refine h.send hrunning hrecorded (effects_log hlog) (.singleton _) fun effect hlast => ?_
  obtain rfl := Option.some.inj hlast
  exact hawaits

theorem settle_db (scope : SessionScope) (turn : Turn) (delivery : Delivery)
    (response : NotificationResponse) : (delivery.settle scope turn response).db = delivery.db := by
  unfold settle
  split <;> rfl

/-- Only a granted claim has an effect. -/
theorem settle_log {response : NotificationResponse}
    (h : ∀ claim, response ≠ .claimed (some claim)) :
    (delivery.settle scope turn response).log = delivery.log := by
  unfold settle
  split
  · rfl
  · rfl
  · exact absurd rfl (h _)
  all_goals rfl

/-- A claim is granted to the request for it. -/
theorem claimed_of_answered {request : NotificationRequest} {claim : NotificationClaim}
    (h : request.Answered (.claimed (some claim))) :
    ∃ target, request = .claim claim.operationId target := by
  cases request with
  | claim operationId target =>
      obtain ⟨granted, hgranted, hid⟩ := h
      cases hgranted
      rw [hid claim rfl]
      exact ⟨target, rfl⟩
  | enable operationId target => obtain ⟨_, h⟩ := h; cases h
  | bind operationId threadId => obtain ⟨_, h⟩ := h; cases h
  | pending target => obtain ⟨_, _, h⟩ := h; cases h
  | observe operationId target deliveryId outcome => obtain ⟨_, h⟩ := h; cases h
  | receive operationId deliveryId => obtain ⟨_, h⟩ := h; cases h

/-- A connection changes nothing that the order of the effects depends on. -/
theorem connect_still (turn : Turn) (delivery : Delivery) :
    (delivery.connect turn).db = delivery.db ∧
      (delivery.connect turn).pending = delivery.pending ∧
      (delivery.connect turn).effects = delivery.effects ∧
      (delivery.running = false → (delivery.connect turn).running = false) := by
  unfold connect
  split
  · exact ⟨rfl, rfl, rfl, id⟩
  · split
    · exact ⟨rfl, rfl, rfl, id⟩
    · exact ⟨rfl, rfl, rfl, fun _ => rfl⟩
    · exact ⟨rfl, rfl, effects_reported rfl, id⟩
    · exact ⟨rfl, rfl, effects_reported rfl, id⟩

theorem Ordered.connect (h : delivery.Ordered scope) :
    (delivery.connect turn).Ordered scope := by
  obtain ⟨hdb, hpending, heffects, hrunning⟩ := connect_still turn delivery
  refine ⟨by rw [hdb]; exact h.recorded, by rw [heffects]; exact h.first,
    by rw [heffects]; exact h.chain, fun effect hlast => ?_⟩
  rw [heffects] at hlast
  have hawaits := h.last effect hlast
  unfold Awaits at hawaits ⊢
  rw [hpending]
  split at hawaits
  · exact hawaits
  · exact hrunning hawaits
  · exact hawaits
  · exact hawaits
  · exact hawaits

theorem Ordered.exchange (h : delivery.Ordered scope) (hrunning : delivery.running = true) :
    (delivery.exchange config scope turn).Ordered scope := by
  obtain ⟨hrecorded, hanswered⟩ := execute_answers h.recorded
    (Prod.mk.eta (p := (executeNotification config scope.runId .operator false turn.now
      (delivery.pending.getD (.pending scope))).run delivery.db)).symm
  unfold Delivery.exchange
  dsimp only
  split
  · exact h.send_only hrunning .lost h.recorded rfl rfl
  · exact h.send_only hrunning .lost hrecorded rfl rfl
  · next isServed _ =>
      refine h.send_only hrunning .refused ?_ rfl rfl
      cases isServed with
      | true => exact hrecorded
      | false => exact h.recorded
  · split
    · exact h.send_only hrunning .refused hrecorded rfl rfl
    · next response hserved =>
        have hresponse := hanswered response hserved
        -- only a granted claim has a second effect
        by_cases hgranted : ∃ claim, response = .claimed (some claim)
        · obtain ⟨claim, rfl⟩ := hgranted
          obtain ⟨target, hrequest⟩ := claimed_of_answered hresponse
          refine @Ordered.send scope delivery _ h hrunning (.answered (.claimed (some claim)))
            [.attempted claim turn.outcome] hrecorded ?_ ?_ fun effect hlast => ?_
          · exact @effects_log delivery _ [.sent _ _, .attempted _ _] (List.append_assoc _ [_] [_])
          · exact List.isChain_pair.mpr ⟨rfl, target, hrequest⟩
          · obtain rfl := Option.some.inj hlast
            exact ⟨turn.observeId, rfl⟩
        · have hnot : ∀ claim, response ≠ .claimed (some claim) := fun claim hclaim =>
            hgranted ⟨claim, hclaim⟩
          refine h.send_only hrunning (.answered response) ?_ ?_ hnot
          · rw [settle_db]
            exact hrecorded
          · rw [settle_log hnot]

theorem Ordered.deliver (h : delivery.Ordered scope) :
    (delivery.deliver config scope turn).Ordered scope := by
  unfold Delivery.deliver
  split
  · dsimp only
    split
    · next hready =>
        rw [Bool.and_eq_true] at hready
        exact h.connect.exchange hready.1
    · exact h.connect
  · exact h

end Delivery

section Run

variable {config : EffectiveConfig} {scope : SessionScope}

/-- The claim that an effect puts on the queue. -/
def Effect.attempt? : Effect → Option OperationId
  | .attempted claim _ => some claim.operationId
  | .sent _ _ | .reported _ => none

/-- The operation of a claim. -/
def NotificationRequest.claimId? : NotificationRequest → Option OperationId
  | .claim operationId _ => some operationId
  | _ => none

/-- The claims that were put on the queue, in order. -/
def Delivery.attempts (delivery : Delivery) : List OperationId :=
  delivery.log.filterMap Effect.attempt?

/-- The claims on the queue, and the one that is asked for. -/
def Delivery.named (delivery : Delivery) : List OperationId :=
  delivery.attempts ++ (delivery.pending.bind NotificationRequest.claimId?).toList

/-- The operations that were generated for claims. -/
def DeliveryInput.claimId? : DeliveryInput → Option OperationId
  | .turn met => some met.claimId
  | .request _ _ _ _ | .elsewhere _ => none

variable {turn : Turn} {delivery after : Delivery}

namespace Delivery

end Delivery

end Run

end Coterie
