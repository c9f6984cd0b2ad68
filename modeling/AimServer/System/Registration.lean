import AimServer.Mail.Service
import AimServer.Session.RowWrites

/-!
Contract: IMServer and GoMailServer together.

Owns: `MailGrpcClient`, how a gRPC call can end, and the two processes as one
machine: a step of IMServer runs the call it makes on the mail server and goes
on with the answer.

Does not own: what either process does. Other clients of the mail server, calls
that arrive there after their deadline, the cleanup goroutine and restarts are
events of their own.
-/

namespace AimServer

open AimServer.Lib

/-- How a gRPC call ends for its client. -/
inductive Wire where
  | answered
  /-- The service handled the call, the answer is lost. -/
  | answerLost (error : String)
  | notReached (error : String)
deriving DecidableEq, Repr

namespace MailGrpcClient

/-- `!status.ok()` in `VerifyCode`. -/
def verifyFailed (error : String) : VerifyResult :=
  ⟨false, "gRPC error: " ++ error⟩

def verifyResult (rsp : VerifyCodeRsp) : VerifyResult :=
  ⟨decide (rsp.code = 0), rsp.msg⟩

/-- `!status.ok()` in `SendCode`. -/
def sendFailed (error : String) : SendCodeResult :=
  ⟨3, "gRPC error: " ++ error, 0⟩

/-- A response whose text is not UTF-8 cannot be marshalled, and the call fails. -/
def sendResult (rsp : SendCodeRsp) : SendCodeResult :=
  match String.fromUTF8? ⟨rsp.msg.toArray⟩ with
  | some msg => ⟨rsp.code, msg, rsp.cooldownSeconds⟩
  | none => sendFailed "string field contains invalid UTF-8"

end MailGrpcClient

namespace RpcCall

/-- A call to the mail server. -/
def isMail : RpcCall → Bool
  | .verifyCode _ _ | .sendCode _ => true
  | _ => false

end RpcCall

/-- The call to the mail server that a step makes, if any. No handler makes two,
and none chooses its call by the answer to it. -/
def World.mailCall? (pb : ImProto) (w : World) (label : Step) : Option RpcCall :=
  ((w.step pb label).calls.drop w.calls.length).find? RpcCall.isMail

def Step.withVerify (verify : VerifyResult) (label : Step) : Step :=
  { label with env := { label.env with verify } }

def Step.withSendCode (sendCode : SendCodeResult) (label : Step) : Step :=
  { label with env := { label.env with sendCode } }

/-- The two processes at an instant of the clock of the mail server. -/
structure Deployment where
  im : World
  mail : MailService
  now : Int
  /-- For the results: the calls on the code store since its process started. -/
  handled : List CodeStep

inductive DeploymentEvent where
  /-- A step of IMServer, with what the network and the random source do if it
  calls the mail server. -/
  | im (label : Step) (wire : Wire) (network : Network) (draw : Nat)
  /-- `SendCode` and `VerifyCode` from elsewhere. -/
  | sendCode (email : Bytes) (network : Network) (draw : Nat)
  | verifyCode (email code : Bytes)
  | cleanup
  | restartMail

/-- An event and the time since the last one. -/
structure DeploymentStep where
  event : DeploymentEvent
  elapsed : Nat

namespace Deployment

/-- Both processes have just started. -/
def boot (im : World) (mailer : SmtpConfig) (ttl cooldown : Int) (digits : Nat) : Deployment :=
  ⟨im, ⟨.new ttl cooldown digits, mailer, ttl⟩, 0, []⟩

def sendCode (network : Network) (email : Bytes) (draw : Nat) (d : Deployment) :
    SendCodeRsp × Deployment :=
  let (rsp, mail) := d.mail.sendCode network email draw d.now
  let calls := if emailPattern email then [⟨.generate email draw, d.now⟩] else []
  (rsp, { d with mail, handled := d.handled ++ calls })

def verifyCode (email code : Bytes) (d : Deployment) : VerifyCodeRsp × Deployment :=
  let (rsp, mail) := d.mail.verifyCode email code d.now
  (rsp, { d with mail, handled := d.handled ++ [⟨.verify email code, d.now⟩] })

def cleanup (d : Deployment) : Deployment :=
  { d with
    mail := { d.mail with store := (d.mail.store.cleanupExpired d.now).2 }
    handled := d.handled ++ [⟨.cleanupExpired, d.now⟩] }

def restartMail (d : Deployment) : Deployment :=
  let store := d.mail.store
  { d with mail := { d.mail with store := .new store.ttl store.cool store.digits }, handled := [] }

/-- IMServer takes a step. -/
def stepIm (pb : ImProto) (label : Step) (d : Deployment) : Deployment :=
  { d with im := d.im.step pb label }

/-- A step of IMServer with the call it makes on the way. -/
def callAndStep (pb : ImProto) (label : Step) (wire : Wire) (network : Network) (draw : Nat)
    (d : Deployment) : Deployment :=
  match d.im.mailCall? pb label with
  | some (.verifyCode email code) =>
      match wire with
      | .answered =>
          let (rsp, d) := d.verifyCode email code
          d.stepIm pb (label.withVerify (MailGrpcClient.verifyResult rsp))
      | .answerLost error =>
          (d.verifyCode email code).2.stepIm pb
            (label.withVerify (MailGrpcClient.verifyFailed error))
      | .notReached error =>
          d.stepIm pb (label.withVerify (MailGrpcClient.verifyFailed error))
  | some (.sendCode email) =>
      match wire with
      | .answered =>
          let (rsp, d) := d.sendCode network email draw
          d.stepIm pb (label.withSendCode (MailGrpcClient.sendResult rsp))
      | .answerLost error =>
          (d.sendCode network email draw).2.stepIm pb
            (label.withSendCode (MailGrpcClient.sendFailed error))
      | .notReached error =>
          d.stepIm pb (label.withSendCode (MailGrpcClient.sendFailed error))
  | _ => d.stepIm pb label

def step (pb : ImProto) (d : Deployment) (label : DeploymentStep) : Deployment :=
  let d := { d with now := d.now + label.elapsed }
  match label.event with
  | .im event wire network draw => d.callAndStep pb event wire network draw
  | .sendCode email network draw => (d.sendCode network email draw).2
  | .verifyCode email code => (d.verifyCode email code).2
  | .cleanup => d.cleanup
  | .restartMail => d.restartMail

abbrev runFrom (pb : ImProto) (d : Deployment) (labels : List DeploymentStep) : Deployment :=
  run (step pb) d labels

end Deployment

end AimServer
