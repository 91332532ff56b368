import Picket.DiskDevices

/-!
# Notifications

An alert is sent to every Telegram user on the list, one message each.
-/

namespace Picket

structure AlertMessageData where
  title : String
  message : String
  link : String := ""

structure NotificationSettings where
  telegramBotToken : String := ""
  telegramUserIDs : List String := []

/-- The settings as they are read. Of settings that cannot be decoded there is what has been decoded
so far, and an error that is logged. -/
inductive SettingsRecord where
  | notFound (err : String)
  | found (settings : NotificationSettings) (unmarshalError : Option String := none)

/-- A call of `SendShoutrrrAlert`. -/
structure SendAttempt where
  notificationUrl : String
  title : String
  message : String
  link : String
  linkText : String
  deriving DecidableEq

/-- `url.PathEscape` and `url.QueryEscape`. -/
structure UrlEscape where
  pathEscape : String → String
  queryEscape : String → String

def nonEmptyTelegramUserIDs : List String → List String
  | [] => []
  | userID :: userIDs =>
      let userID := Gather.trimSpace userID
      if userID ≠ "" then userID :: nonEmptyTelegramUserIDs userIDs
      else nonEmptyTelegramUserIDs userIDs

section Sending

variable (esc : UrlEscape)

def sendTelegramAlert (token chatID : String) (data : AlertMessageData) : SendAttempt where
  notificationUrl :=
    "telegram://" ++ esc.pathEscape token ++ "@telegram?channels=" ++ esc.queryEscape chatID
  title := data.title
  message := data.message
  link := data.link
  linkText := "View Picket"

/-- The loop of `SendAlert`, with the number of deliveries so far, and the error of each. -/
def sendEach (token : String) (data : AlertMessageData) (outcome : ℕ → Option String) :
    ℕ → List String → List SendAttempt × Option String
  | _, [] => ([], none)
  | n, userID :: userIDs =>
      let delivery := sendTelegramAlert esc token userID data
      match outcome n with
      | some err => ([delivery], some err)
      | none =>
          let (deliveries, err) := sendEach token data outcome (n + 1) userIDs
          (delivery :: deliveries, err)

def sendAlert (record : SettingsRecord) (data : AlertMessageData)
    (outcome : ℕ → Option String) : List SendAttempt × Option String :=
  match record with
  | .notFound err => ([], some err)
  | .found settings _ =>
      let telegramUserIDs := nonEmptyTelegramUserIDs settings.telegramUserIDs
      if settings.telegramBotToken = "" ∨ telegramUserIDs.length = 0 then ([], none)
      else sendEach esc settings.telegramBotToken data outcome 0 telegramUserIDs

/-- Delivery is attempted to each user once, in the order of the list, and there is an error if and
only if one of the attempts has failed. -/
structure FansOut (settings : NotificationSettings) (data : AlertMessageData)
    (outcome : ℕ → Option String) (result : List SendAttempt × Option String) : Prop where
  attempts : result.1 = (nonEmptyTelegramUserIDs settings.telegramUserIDs).map fun userID =>
    sendTelegramAlert esc settings.telegramBotToken userID data
  error : result.2.isSome ↔ ∃ n < result.1.length, (outcome n).isSome

end Sending

end Picket
