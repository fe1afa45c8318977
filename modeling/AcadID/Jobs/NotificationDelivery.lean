/-
**Notifications, handed to the providers of their channels, and marked as sent or failed.**

* `sendEmail`, `sendSms` and `sendPush` — to whom a notification goes, through which provider, and
  with which request; without a provider the run is dry, unless a provider is required.
* `send` — a notification handed over, and refused unless its provider answers with success.
* `deliverOne` — a notification sent, and marked. An update that does not go through after the send
  is caught with the errors of the send.
* `Marked` and `deliverOne_marked` — **what a delivery leaves**: one row at most is written, with
  the status that `statusAfter` says.
* `deliverAll_marked` — the same of all that a batch comes to before its first delivery that throws.
-/

import AcadID.Jobs.WebhookDeliveries

namespace AcadID

open Lib

namespace NotificationDelivery

open JobWorker
open WebhookDeliveries (Answer refusal)

/-! ### The requests -/

/-- A notification with the rows it is read with. -/
structure NotificationRecord extends Notification where
  user : Option User
  learner : Option Learner
  studentUserProfile : Option User

/-- The record of a row: its user, its learner, and the account of its learner. -/
def recordOf (s : Store) (row : Notification) : NotificationRecord where
  toNotification := row
  user := row.userId.bind s.users.find?
  learner := row.learnerId.bind s.learners.find?
  studentUserProfile := row.learnerId.bind fun learnerId =>
    s.users.rows.find? fun user => user.learnerId == some learnerId

inductive RequestBody where
  | json (value : Json)
  | form (fields : List (String × String))

structure ProviderRequest where
  url : String
  headers : List (String × String)
  body : RequestBody

def postJson (url : String) (body : Json) (headers : List (String × String)) : ProviderRequest where
  url := url
  headers := ("content-type", "application/json") :: headers
  body := .json body

def postForm (url : String) (body headers : List (String × String)) : ProviderRequest where
  url := url
  headers := ("content-type", "application/x-www-form-urlencoded") :: headers
  body := .form body

/-- Through which provider a notification goes, and to whom; there is no request in a dry run. -/
structure Dispatch where
  provider : String
  destination : String
  request : Option ProviderRequest

def Dispatch.dryRun (dispatch : Dispatch) : Bool :=
  dispatch.request.isNone

def asRecord : Option Json → List (String × Json)
  | some (.obj fields) => fields
  | _ => []

/-- The first of the values that is a text, and not blank. -/
def firstString (values : List (Option Json)) : Option String :=
  values.findSome? fun value =>
    match value with
    | some (.str text) => if Text.isBlank text then none else some (Text.trim text)
    | _ => none

/-- What matches `([^>]+)` in `/<([^>]+)>/`. -/
def bracketed : List Char → Option (List Char)
  | [] => none
  | c :: rest =>
    let inside := rest.takeWhile (· ≠ '>')
    if c = '<' ∧ inside ≠ [] ∧ inside.length < rest.length then some inside else bracketed rest

def emailAddress (value : String) : String :=
  ((bracketed value.toList).map String.ofList).getD value

def base64Char (n : ℕ) : Char :=
  if n = 62 then '+' else if n = 63 then '/' else Text.base64UrlChar n

/-- `Buffer.from(s).toString("base64")` -/
def base64 (s : String) : String :=
  let digits := (Text.sextets (s.toList.flatMap Text.utf8)).map base64Char
  String.ofList (digits ++ List.replicate ((4 - digits.length % 4) % 4) '=')

/-- A variable of the environment, unless it is empty. -/
def setting (rt : Runtime) (name : String) : Option String :=
  (rt.env name).filter (· ≠ "")

def requireProviderOrDryRun (rt : Runtime) (channel : String) : Except ServiceError Unit :=
  require (rt.env "ACADID_REQUIRE_NOTIFICATION_PROVIDER" != some "true")
    (.error (channel ++ " notification provider is not configured."))

/-- What a channel does without a provider. -/
def dryRun (rt : Runtime) (channel destination : String) : Except ServiceError Dispatch := do
  requireProviderOrDryRun rt channel
  return { provider := "dry-run-" ++ channel, destination := destination, request := none }

def sendEmail (rt : Runtime) (notification : NotificationRecord) :
    Except ServiceError Dispatch := do
  let payload := notification.payload
  let destination ← orThrow
    ((firstString [payload.get? "to", payload.get? "email", payload.get? "emailAddress"] <|>
      notification.user.map (·.email) <|> notification.studentUserProfile.map (·.email)).filter
        (· ≠ ""))
    (.error "Email notification requires a destination email.")
  let sender := (firstString [payload.get? "from"] <|> rt.env "ACADID_EMAIL_FROM").getD
    "ACAD.ID <no-reply@acadid.local>"
  match setting rt "RESEND_API_KEY", setting rt "SENDGRID_API_KEY" with
  | some key, _ =>
    let body := Json.obj
      [("from", .str sender), ("to", .arr [.str destination]), ("subject", .str notification.title),
        ("text", .str notification.body)]
    return {
      provider := "resend"
      destination := destination
      request := some (postJson "https://api.resend.com/emails" body
        [("authorization", "Bearer " ++ key)]) }
  | none, some key =>
    let body := Json.obj
      [("personalizations", .arr [.obj [("to", .arr [.obj [("email", .str destination)]])]]),
        ("from", .obj [("email", .str (emailAddress sender))]),
        ("subject", .str notification.title),
        ("content", .arr [.obj
          [("type", .str "text/plain"), ("value", .str notification.body)]])]
    return {
      provider := "sendgrid"
      destination := destination
      request := some (postJson "https://api.sendgrid.com/v3/mail/send" body
        [("authorization", "Bearer " ++ key)]) }
  | none, none => dryRun rt "email" destination

def sendSms (rt : Runtime) (notification : NotificationRecord) :
    Except ServiceError Dispatch := do
  let payload := notification.payload
  let destination ← orThrow
    ((firstString [payload.get? "to", payload.get? "phone", payload.get? "phoneNumber"] <|>
      notification.user.bind (·.phone) <|> notification.learner.bind (·.phone)).filter (· ≠ ""))
    (.error "SMS notification requires a destination phone number.")
  match setting rt "TERMII_API_KEY", setting rt "TWILIO_ACCOUNT_SID",
    setting rt "TWILIO_AUTH_TOKEN", setting rt "TWILIO_FROM_NUMBER" with
  | some key, _, _, _ =>
    let sender := (rt.env "TERMII_SENDER_ID" <|> rt.env "ACADID_SMS_SENDER_ID").getD "ACADID"
    let body := Json.obj
      [("api_key", .str key), ("to", .str destination), ("from", .str sender),
        ("sms", .str notification.body), ("type", .str "plain"),
        ("channel", .str ((rt.env "TERMII_CHANNEL").getD "generic"))]
    return {
      provider := "termii"
      destination := destination
      request := some (postJson "https://api.ng.termii.com/api/sms/send" body []) }
  | none, some sid, some token, some sender =>
    return {
      provider := "twilio"
      destination := destination
      request := some (postForm
        ("https://api.twilio.com/2010-04-01/Accounts/" ++ sid ++ "/Messages.json")
        [("To", destination), ("From", sender), ("Body", notification.body)]
        [("authorization", "Basic " ++ base64 (sid ++ ":" ++ token))]) }
  | none, _, _, _ => dryRun rt "sms" destination

def sendPush (rt : Runtime) (notification : NotificationRecord) :
    Except ServiceError Dispatch := do
  let payload := notification.payload
  let destination ← orThrow
    (firstString
      [payload.get? "to", payload.get? "pushToken", payload.get? "deviceToken",
        payload.get? "expoPushToken"])
    (.error "Push notification requires a destination push token.")
  let data := asRecord (payload.get? "data")
  let type := ((Json.obj data).get? "type").getD (.str notification.type)
  let body := Json.obj
    [("to", .str destination), ("title", .str notification.title), ("body", .str notification.body),
      ("data", .obj (("type", type) :: data.filter (·.1 ≠ "type")))]
  return {
    provider := "expo"
    destination := destination
    request := some (postJson "https://exp.host/--/api/v2/push/send" body
      ((setting rt "EXPO_ACCESS_TOKEN").toList.map fun token =>
        ("authorization", "Bearer " ++ token))) }

/-- What `send` hands over, by the channel of the notification. -/
def dispatch (rt : Runtime) (notification : NotificationRecord) : Except ServiceError Dispatch :=
  match notification.channel with
  | .email => sendEmail rt notification
  | .sms => sendSms rt notification
  | .push => sendPush rt notification
  | .webhook => .error (.error "Webhook notifications must use the WebhookDelivery queue.")

/-! ### The world of a delivery -/

/-- The store, and the notifications that providers have accepted. -/
structure World where
  store : Store
  accepted : List Uuid

namespace World

def notifications (w : World) : Table Notification.uuid :=
  w.store.notifications

/-- A call of the database that fares as told. -/
def call (fate : Fate) (f : Store → Except ServiceError (Unit × Store)) (w : World) :
    Except ServiceError Unit × World :=
  match fate, f w.store with
  | .failed, _ => (.error .database, w)
  | _, .error e => (.error e, w)
  | .done, .ok (_, s) => (.ok (), { w with store := s })
  | .lost, .ok (_, s) => (.error .database, { w with store := s })

/-- **A call that can be made** throws unless it is done, and is committed unless it fails. -/
theorem call_of_ok {f : Store → Except ServiceError (Unit × Store)} {w : World} {s : Store}
    (goes : f w.store = .ok ((), s)) (fate : Fate) :
    call fate f w = (if fate = .done then .ok () else .error .database,
      if fate = .failed then w else { w with store := s }) := by
  unfold call
  rw [goes]
  cases fate <;> rfl

theorem call_of_error {f : Store → Except ServiceError (Unit × Store)} {w : World}
    {e : ServiceError} (refuses : f w.store = .error e) (fate : Fate) :
    ∃ error, call fate f w = (.error error, w) := by
  unfold call
  rw [refuses]
  cases fate <;> exact ⟨_, rfl⟩

end World

/-! ### One delivery -/

/-- The answer of the provider as the source takes it: `assertOk`, or the throw of the request. -/
def assertOk : Answer → Except ServiceError Unit
  | .threw message => .error (.error message)
  | .responded status text =>
    if (Answer.responded status text).isOk then .ok ()
    else .error (.error ("Notification provider failed with " ++ refusal status text))

def send (rt : Runtime) (notification : NotificationRecord) (answer : Answer) (w : World) :
    Except ServiceError Dispatch × World :=
  match dispatch rt notification with
  | .error e => (.error e, w)
  | .ok sent =>
    match sent.request with
    | none => (.ok sent, w)
    | some _ =>
      match assertOk answer with
      | .ok () => (.ok sent, { w with accepted := notification.uuid :: w.accepted })
      | .error e => (.error e, w)

/-- How the calls of a delivery fare: the request, and the update with either status. -/
structure Delivery where
  answer : Answer
  sent : Fate
  failed : Fate

/-- What a job reports of a notification. -/
structure DeliveryResult where
  id : Uuid
  channel : NotificationChannel
  status : NotificationStatus
  provider : String
  dryRun : Bool
  destination : Option String
  error : Option String

/-- `prisma.notification.update` -/
def updateNotification (id : Uuid) (f : Notification → Notification)
    (keeps : ∀ row, (f row).uuid = row.uuid) (s : Store) : Except ServiceError (Unit × Store) := do
  let (_, notifications) ← updateRow s.notifications id f keeps
  return ((), { s with notifications := notifications })

def markSent (row : Notification) : Notification :=
  { row with
    status := .sent
    error := none }

def markFailed (error : ServiceError) (row : Notification) : Notification :=
  { row with
    status := .failed
    error := some (Text.slice 1000 error.message) }

/-- What follows a throw of the send, or of the update after it. -/
def caught (notification : NotificationRecord) (error : ServiceError) (fate : Fate) (w : World) :
    Except ServiceError DeliveryResult × World :=
  match w.call fate (updateNotification notification.uuid (markFailed error) fun _ => rfl) with
  | (.ok (), w) => (.ok {
      id := notification.uuid
      channel := notification.channel
      status := .failed
      provider := "none"
      dryRun := false
      destination := none
      error := some error.message }, w)
  | (.error e, w) => (.error e, w)

def deliverOne (rt : Runtime) (notification : NotificationRecord) (delivery : Delivery)
    (w : World) : Except ServiceError DeliveryResult × World :=
  match send rt notification delivery.answer w with
  | (.error e, w) => caught notification e delivery.failed w
  | (.ok sent, w) =>
    match w.call delivery.sent
      (updateNotification notification.uuid markSent fun _ => rfl) with
    | (.ok (), w) => (.ok {
        id := notification.uuid
        channel := notification.channel
        status := .sent
        provider := sent.provider
        dryRun := sent.dryRun
        destination := some sent.destination
        error := none }, w)
    | (.error e, w) => caught notification e delivery.failed w

/-- The deliveries of a batch, one after the other, up to the first that throws. -/
def deliverAll (rt : Runtime) (delivery : Uuid → Delivery) :
    List NotificationRecord → List DeliveryResult → World →
      Except ServiceError (List DeliveryResult) × World
  | [], results, w => (.ok results, w)
  | notification :: rest, results, w =>
    match deliverOne rt notification (delivery notification.uuid) w with
    | (.ok result, w) => deliverAll rt delivery rest (results ++ [result]) w
    | (.error e, w) => (.error e, w)

/-! ### What a delivery comes to -/

section

variable (rt : Runtime) (notification : NotificationRecord)

/-- Whether the notification is sent, or would be in a dry run. -/
def sends (answer : Answer) : Bool :=
  match dispatch rt notification with
  | .ok sent => sent.dryRun || answer.isOk
  | .error _ => false

/-- Whether its provider accepts it. -/
def accepts (answer : Answer) : Bool :=
  match dispatch rt notification with
  | .ok sent => !sent.dryRun && answer.isOk
  | .error _ => false

/-- Whether its delivery ends in the handler: the send throws, or the update after it. -/
def isCaught (delivery : Delivery) : Bool :=
  !sends rt notification delivery.answer || delivery.sent != .done

/-- Whether it throws. -/
def throws (delivery : Delivery) : Bool :=
  isCaught rt notification delivery && delivery.failed != .done

/-- Whether it marks the notification as failed. -/
def marksFailed (delivery : Delivery) : Bool :=
  isCaught rt notification delivery && delivery.failed != .failed

/-- Whether it marks the notification at all. -/
def marks (delivery : Delivery) : Bool :=
  marksFailed rt notification delivery ||
    (sends rt notification delivery.answer && delivery.sent != .failed)

/-- The status that a delivery leaves on a notification. -/
def statusAfter (delivery : Delivery) (before : NotificationStatus) : NotificationStatus :=
  if marksFailed rt notification delivery then .failed
  else if marks rt notification delivery then .sent
  else before

end

/-- The deliveries that a batch comes to: those up to the first that throws. -/
def comesTo (rt : Runtime) (delivery : Uuid → Delivery) :
    List NotificationRecord → List NotificationRecord
  | [] => []
  | notification :: rest =>
    if throws rt notification (delivery notification.uuid) then [notification]
    else notification :: comesTo rt delivery rest

theorem mem_of_mem_comesTo {rt : Runtime} {delivery : Uuid → Delivery}
    {notifications : List NotificationRecord} {notification : NotificationRecord}
    (comes : notification ∈ comesTo rt delivery notifications) : notification ∈ notifications := by
  induction notifications with
  | nil => exact comes
  | cons first rest ih =>
    unfold comesTo at comes
    split at comes
    · rw [List.mem_singleton.mp comes]
      exact List.mem_cons_self
    · rcases List.mem_cons.mp comes with here | there
      · rw [here]
        exact List.mem_cons_self
      · exact List.mem_cons_of_mem first (ih there)

/-- A batch none of whose deliveries throws comes to all of them. -/
theorem comesTo_of_none {rt : Runtime} {delivery : Uuid → Delivery}
    {notifications : List NotificationRecord}
    (none : ∀ n ∈ notifications, throws rt n (delivery n.uuid) = false) :
    comesTo rt delivery notifications = notifications := by
  induction notifications with
  | nil => rfl
  | cons first rest ih =>
    obtain ⟨here, there⟩ := List.forall_mem_cons.mp none
    unfold comesTo
    rw [if_neg (by rw [here]; exact Bool.false_ne_true), ih there]

/-! ### What is written -/

/-- One notification at most is written, its job kept and its status moved, and accepted or not. -/
structure Marked (id : Uuid) (status : NotificationStatus → NotificationStatus) (accepted : Bool)
    (w w' : World) : Prop where
  rest : w'.store = { w.store with notifications := w'.notifications }
  own : ∀ row, w.notifications.find? id = some row →
    ∃ row', w'.notifications.find? id = some row' ∧ row'.jobId = row.jobId ∧
      row'.status = status row.status
  others : ∀ other, other ≠ id → w'.notifications.find? other = w.notifications.find? other
  accepted : ∀ other, other ∈ w'.accepted ↔ other ∈ w.accepted ∨ accepted = true ∧ other = id

namespace Marked

theorem trans {id : Uuid} {f g : NotificationStatus → NotificationStatus} {a b : Bool}
    {w v u : World} (first : Marked id f a w v) (second : Marked id g b v u) :
    Marked id (g ∘ f) (a || b) w u where
  rest := by rw [second.rest, first.rest]
  own row found := by
    obtain ⟨row', found', sameJob, status⟩ := first.own row found
    obtain ⟨row'', found'', sameJob', status'⟩ := second.own row' found'
    refine ⟨row'', found'', sameJob'.trans sameJob, ?_⟩
    rw [status', status]
    rfl
  others other differs := (second.others other differs).trans (first.others other differs)
  accepted other := by
    rw [second.accepted, first.accepted, Bool.or_eq_true, or_and_right, or_assoc]

/-- A delivery whose status and acceptance are written in another way. -/
theorem congr {id : Uuid} {f g : NotificationStatus → NotificationStatus} {a b : Bool}
    {w v : World} (marked : Marked id f a w v) (status : ∀ before, f before = g before)
    (same : a = b) : Marked id g b w v := by
  rw [← funext status, ← same]
  exact marked

end Marked

/-- **An update of one notification**, under a call that may fail. -/
theorem marked_update {id : Uuid} (f : Notification → Notification)
    (keeps : ∀ row, (f row).uuid = row.uuid) {status : NotificationStatus}
    (sets : ∀ row, (f row).status = status) (keepsJob : ∀ row, (f row).jobId = row.jobId)
    (fate : Fate) {w : World} {row : Notification} (found : w.notifications.find? id = some row) :
    Marked id (fun before => if fate = .failed then before else status) false w
        (w.call fate (updateNotification id f keeps)).2 ∧
      (w.call fate (updateNotification id f keeps)).1 =
        (if fate = .done then .ok () else .error .database) := by
  have goes : updateNotification id f keeps w.store =
      .ok ((), { w.store with notifications := w.notifications.update id f keeps }) :=
    bind_eq_ok.mpr ⟨_, updateRow_eq_ok.mpr ⟨row, found, rfl, rfl⟩, rfl⟩
  rw [World.call_of_ok goes]
  refine ⟨?_, rfl⟩
  by_cases fails : fate = .failed
  · simp only [if_pos fails]
    exact ⟨rfl, fun row found => ⟨row, found, rfl, rfl⟩, fun _ _ => rfl, by simp⟩
  · simp only [if_neg fails]
    refine ⟨rfl, fun row found => ⟨f row, ?_, keepsJob row, sets row⟩, fun other differs => ?_,
      by simp⟩
    · exact Table.find?_update_self found f keeps
    · exact (Table.find?_update w.notifications id f keeps other).trans (if_neg differs.symm)

/-- **A send** goes through exactly when `sends` says, and is accepted when `accepts` does. -/
theorem send_marked (rt : Runtime) (notification : NotificationRecord) (answer : Answer)
    (w : World) :
    Marked notification.uuid id (accepts rt notification answer) w
        (send rt notification answer w).2 ∧
      ((∃ sent, (send rt notification answer w).1 = .ok sent) ↔
        sends rt notification answer = true) := by
  have still : Marked notification.uuid id false w w :=
    ⟨rfl, fun row found => ⟨row, found, rfl, rfl⟩, fun _ _ => rfl, by simp⟩
  unfold send sends accepts
  cases dispatch rt notification with
  | error e => exact ⟨still, by simp⟩
  | ok sent =>
    cases request : sent.request with
    | none =>
      have dry : sent.dryRun = true := by simp [Dispatch.dryRun, request]
      simp only [request, dry]
      exact ⟨still, by simp⟩
    | some _ =>
      have wet : sent.dryRun = false := by simp [Dispatch.dryRun, request]
      simp only [request, wet]
      cases answer with
      | threw message => exact ⟨still, by simp [assertOk, Answer.isOk]⟩
      | responded code text =>
        unfold assertOk
        cases fine : (Answer.responded code text).isOk with
        | false =>
          simp only [fine, Bool.false_eq_true, if_false]
          exact ⟨still, by simp⟩
        | true =>
          simp only [fine, if_true]
          refine ⟨⟨rfl, fun row found => ⟨row, found, rfl, rfl⟩, fun _ _ => rfl, fun other => ?_⟩,
            by simp⟩
          simp [or_comm]

/-- **The handler** marks the notification as failed, or throws. -/
theorem caught_marked {notification : NotificationRecord} (error : ServiceError) (fate : Fate)
    {w : World} {row : Notification}
    (found : w.notifications.find? notification.uuid = some row) :
    Marked notification.uuid (fun before => if fate = .failed then before else .failed) false w
        (caught notification error fate w).2 ∧
      ((∃ result, (caught notification error fate w).1 = .ok result) ↔ fate = .done) := by
  have update := marked_update (markFailed error) (fun _ => rfl) (fun _ => rfl) (fun _ => rfl)
    fate found
  unfold caught
  revert update
  generalize w.call fate
    (updateNotification notification.uuid (markFailed error) fun _ => rfl) = called
  rintro ⟨marked, result⟩
  rcases called with ⟨e | _, v⟩
  · refine ⟨marked, ⟨by simp, fun done => ?_⟩⟩
    rw [if_pos done] at result
    exact absurd result (by simp)
  · refine ⟨marked, ⟨fun _ => ?_, fun _ => ⟨_, rfl⟩⟩⟩
    by_contra undone
    rw [if_neg undone] at result
    exact absurd result (by simp)

/-- **A delivery** marks its notification as `statusAfter` says, unless it is left as it was, and
throws exactly when `throws` does. -/
theorem deliverOne_marked (rt : Runtime) (notification : NotificationRecord) (delivery : Delivery)
    {w : World} {row : Notification}
    (found : w.notifications.find? notification.uuid = some row) :
    Marked notification.uuid (statusAfter rt notification delivery)
        (accepts rt notification delivery.answer) w (deliverOne rt notification delivery w).2 ∧
      ((∃ result, (deliverOne rt notification delivery w).1 = .ok result) ↔
        throws rt notification delivery = false) := by
  have sent := send_marked rt notification delivery.answer w
  unfold deliverOne
  revert sent
  generalize send rt notification delivery.answer w = called
  rintro ⟨sentMarked, goes⟩
  rcases called with ⟨e | dispatched, v⟩
  · have refused : sends rt notification delivery.answer = false := by simpa using goes
    obtain ⟨row', found', -, -⟩ := sentMarked.own row found
    obtain ⟨marked, result⟩ := caught_marked e delivery.failed found'
    refine ⟨(sentMarked.trans marked).congr (fun before => ?_) (Bool.or_false _), result.trans ?_⟩
    · cases fate : delivery.failed <;>
        simp [statusAfter, marksFailed, marks, isCaught, refused, fate]
    · simp [throws, isCaught, refused]
  · have handed : sends rt notification delivery.answer = true := goes.mp ⟨dispatched, rfl⟩
    obtain ⟨row', found', -, -⟩ := sentMarked.own row found
    have update := marked_update markSent (fun _ => rfl) (fun _ => rfl) (fun _ => rfl)
      delivery.sent found'
    dsimp only
    revert update
    generalize v.call delivery.sent
      (updateNotification notification.uuid markSent fun _ => rfl) = updated
    rintro ⟨sentUpdated, answered⟩
    have both := sentMarked.trans sentUpdated
    rcases updated with ⟨e | _, u⟩
    · have undone : delivery.sent ≠ .done := by
        intro done
        rw [if_pos done] at answered
        exact absurd answered (by simp)
      obtain ⟨row'', found'', -, -⟩ := sentUpdated.own row' found'
      obtain ⟨marked, result⟩ := caught_marked e delivery.failed found''
      refine ⟨(both.trans marked).congr (fun before => ?_) (by simp), result.trans ?_⟩
      · cases fate : delivery.failed <;> cases other : delivery.sent <;>
          simp_all [statusAfter, marksFailed, marks, isCaught]
      · simp [throws, isCaught, undone]
    · have done : delivery.sent = .done := by
        by_contra undone
        rw [if_neg undone] at answered
        exact absurd answered (by simp)
      refine ⟨both.congr (fun before => ?_) (Bool.or_false _), ?_⟩
      · simp [statusAfter, marksFailed, marks, isCaught, handed, done]
      · simp [throws, isCaught, handed, done]

/-! ### A batch -/

/-- The notifications of a batch are written, their jobs kept and their statuses moved, and no
others. -/
structure BatchMarked (rt : Runtime) (delivery : Uuid → Delivery)
    (notifications : List NotificationRecord) (w w' : World) : Prop where
  rest : w'.store = { w.store with notifications := w'.notifications }
  own : ∀ n ∈ notifications, ∀ row, w.notifications.find? n.uuid = some row →
    ∃ row', w'.notifications.find? n.uuid = some row' ∧ row'.jobId = row.jobId ∧
      row'.status = statusAfter rt n (delivery n.uuid) row.status
  others : ∀ id, (∀ n ∈ notifications, n.uuid ≠ id) →
    w'.notifications.find? id = w.notifications.find? id
  accepted : ∀ id, id ∈ w'.accepted ↔ id ∈ w.accepted ∨
    ∃ n ∈ notifications, n.uuid = id ∧ accepts rt n (delivery n.uuid).answer = true

theorem batchMarked_nil (rt : Runtime) (delivery : Uuid → Delivery) (w : World) :
    BatchMarked rt delivery [] w w :=
  ⟨rfl, by simp, fun _ _ => rfl, by simp⟩

theorem batchMarked_cons {rt : Runtime} {delivery : Uuid → Delivery}
    {notification : NotificationRecord} {rest : List NotificationRecord} {w v u : World}
    (fresh : ∀ n ∈ rest, n.uuid ≠ notification.uuid)
    (first : Marked notification.uuid (statusAfter rt notification (delivery notification.uuid))
      (accepts rt notification (delivery notification.uuid).answer) w v)
    (others : BatchMarked rt delivery rest v u) :
    BatchMarked rt delivery (notification :: rest) w u where
  rest := by rw [others.rest, first.rest]
  own := by
    refine List.forall_mem_cons.mpr ⟨fun row found => ?_, fun n inside row found => ?_⟩
    · rw [others.others _ fresh]
      exact first.own row found
    · exact others.own n inside row ((first.others _ (fresh n inside)).trans found)
  others id outside := by
    obtain ⟨differs, there⟩ := List.forall_mem_cons.mp outside
    exact (others.others id there).trans (first.others id differs.symm)
  accepted id := by
    rw [others.accepted, first.accepted, or_assoc]
    simp only [List.mem_cons, or_and_right, exists_or, exists_eq_left]
    rw [and_comm, eq_comm]

/-- **A batch** writes the notifications that it comes to, and goes through exactly when none of its
deliveries throws. -/
theorem deliverAll_marked (rt : Runtime) (delivery : Uuid → Delivery)
    {notifications : List NotificationRecord} {w : World} (results : List DeliveryResult)
    (nodup : (notifications.map (·.uuid)).Nodup)
    (found : ∀ n ∈ notifications, ∃ row, w.notifications.find? n.uuid = some row) :
    BatchMarked rt delivery (comesTo rt delivery notifications) w
        (deliverAll rt delivery notifications results w).2 ∧
      ((∃ all, (deliverAll rt delivery notifications results w).1 = .ok all) ↔
        ∀ n ∈ notifications, throws rt n (delivery n.uuid) = false) := by
  induction notifications generalizing w results with
  | nil => exact ⟨batchMarked_nil rt delivery w, by simp [deliverAll]⟩
  | cons notification rest ih =>
    obtain ⟨⟨row, here⟩, there⟩ := List.forall_mem_cons.mp found
    obtain ⟨out, nodup⟩ := List.nodup_cons.mp nodup
    have fresh : ∀ n ∈ rest, n.uuid ≠ notification.uuid := fun n inside same =>
      out (List.mem_map.mpr ⟨n, inside, same⟩)
    have one := deliverOne_marked rt notification (delivery notification.uuid) here
    unfold deliverAll comesTo
    revert one
    generalize deliverOne rt notification (delivery notification.uuid) w = called
    rintro ⟨marked, goes⟩
    rcases called with ⟨e | result, v⟩
    · have thrown : throws rt notification (delivery notification.uuid) = true := by
        simpa using goes
      rw [if_pos thrown, List.forall_mem_cons, thrown]
      exact ⟨batchMarked_cons (by simp) marked (batchMarked_nil rt delivery v), by simp⟩
    · have kept := goes.mp ⟨result, rfl⟩
      have still : ∀ n ∈ rest, ∃ row, v.notifications.find? n.uuid = some row := fun n inside => by
        rw [marked.others _ (fresh n inside)]
        exact there n inside
      obtain ⟨others, all⟩ := ih (results ++ [result]) nodup still
      rw [if_neg (by rw [kept]; exact Bool.false_ne_true), List.forall_mem_cons]
      refine ⟨batchMarked_cons (fun n comes => fresh n (mem_of_mem_comesTo comes)) marked others,
        all.trans ?_⟩
      exact ⟨fun rest => ⟨kept, rest⟩, fun both => both.2⟩

end NotificationDelivery

end AcadID
