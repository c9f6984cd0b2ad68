import AimServer.Mail.CodeStore

/-!
Contract: `SendCode` of GoMailServer.

Owns: the pattern of an address, the mail that is written, the steps of the SMTP
dialogue with the error each of them returns, and the responses of the service,
those of `VerifyCode` included.

Does not own: the network. What it answers at every step is a parameter.
-/

namespace AimServer

open AimServer.Lib

/-- `SMTPConfig`. -/
structure SmtpConfig where
  host : Bytes
  port : Int
  username : Bytes
  password : Bytes
  fromAddress : Bytes
  useTLS : Bool
deriving DecidableEq, Repr

/-- The error each call of the SMTP library returns, `none` when it succeeds. -/
structure SmtpAnswers where
  dial : Option Bytes
  newClient : Option Bytes
  auth : Option Bytes
  mail : Option Bytes
  rcpt : Option Bytes
  data : Option Bytes
  write : Option Bytes
  close : Option Bytes
  quit : Option Bytes
  sendMail : Option Bytes
deriving DecidableEq, Repr

/-- What happens to a mail with this recipient and text. -/
abbrev Network := SmtpConfig → Bytes → Bytes → SmtpAnswers

namespace Mailer

/-- The headers and the body, with `\r\n` between the lines. -/
def message (cfg : SmtpConfig) (recipient code : Bytes) (ttlMinutes : Int) : Bytes :=
  List.intercalate (str "\r\n")
    [str "From: " ++ cfg.fromAddress,
      str "To: " ++ recipient,
      str "Subject: 您的注册验证码",
      str "Content-Type: text/plain; charset=UTF-8",
      [],
      str "您的验证码是 " ++ code ++ str "，" ++ intText ttlMinutes ++
        str " 分钟内有效，请勿泄露给他人。"]

/-- `sendTLS`: the first error ends the dialogue. -/
def sendTLS (answers : SmtpAnswers) : Option Bytes :=
  ((answers.dial.map fun err => str "连接SMTP服务器失败: " ++ err).or
    (answers.newClient.map fun err => str "创建SMTP客户端失败: " ++ err)).or
  ((answers.auth.map fun err => str "SMTP认证失败: " ++ err).or
    (answers.mail.or (answers.rcpt.or (answers.data.or (answers.write.or
      (answers.close.or answers.quit))))))

/-- `Mailer.SendCode`: the error, if any. -/
def sendCode (network : Network) (cfg : SmtpConfig) (recipient code : Bytes) (ttlMinutes : Int) :
    Option Bytes :=
  if cfg.host = [] then some (str "SMTP 未配置")
  else
    let answers := network cfg recipient (message cfg recipient code ttlMinutes)
    if cfg.useTLS then sendTLS answers else answers.sendMail

end Mailer

structure SendCodeRsp where
  code : Int
  msg : Bytes
  cooldownSeconds : Int
deriving DecidableEq, Repr

structure VerifyCodeRsp where
  code : Int
  msg : String
deriving DecidableEq, Repr

/-- `MailService` with the settings `SendCode` reads; `ttl` is that of
`CodeConfig`. -/
structure MailService where
  store : CodeStore
  mailer : SmtpConfig
  ttl : Int

/-- `[^\s@]`. -/
def isAddressChar (c : UInt8) : Bool :=
  c ∉ [64, 32, 9, 10, 12, 13]

/-- `[^\s@]+`. -/
def isAddressWord (text : Bytes) : Bool :=
  text ≠ [] ∧ text.all isAddressChar

/-- `emailPattern`: three words with `@` and a dot between them. -/
def emailPattern (email : Bytes) : Bool :=
  (List.range email.length).any fun sign => (List.range email.length).any fun dot =>
    email[sign]? = some 64 ∧ email[dot]? = some 46 ∧ isAddressWord (email.take sign) ∧
      isAddressWord ((email.take dot).drop (sign + 1)) ∧ isAddressWord (email.drop (dot + 1))

example : emailPattern (str "a.b@c.d.e") = true ∧ emailPattern (str "a@b@c.d") = false ∧
    emailPattern (str "a@.d") = false := by decide +kernel

namespace MailService

/-- `MailService.SendCode`, with the number `rand.Int` draws. -/
def sendCode (network : Network) (email : Bytes) (draw : Nat) (now : Int) (s : MailService) :
    SendCodeRsp × MailService :=
  if emailPattern email then
    let (generated, store) := s.store.generate email draw now
    let s := { s with store }
    if generated.ok then
      match Mailer.sendCode network s.mailer email generated.code (s.ttl.tdiv 60000000000) with
      | some err => (⟨3, str "邮件发送失败: " ++ err, 0⟩, s)
      | none => (⟨0, str "验证码已发送", 0⟩, s)
    else
      (⟨1, str "发送过于频繁，请稍后再试", generated.cooldownRemaining.bmod (2 ^ 32)⟩, s)
  else (⟨2, str "邮箱格式不正确", 0⟩, s)

/-- `MailService.VerifyCode`. -/
def verifyCode (email code : Bytes) (now : Int) (s : MailService) :
    VerifyCodeRsp × MailService :=
  let (ok, store) := s.store.verify email code now
  (if ok then ⟨0, "ok"⟩ else ⟨1, "验证码错误或已过期"⟩, { s with store })

/-- What the mailer returns when it is asked to send a new code. -/
def mailed (network : Network) (email : Bytes) (draw : Nat) (s : MailService) : Option Bytes :=
  Mailer.sendCode network s.mailer email (randomDigits s.store.digits draw)
    (s.ttl.tdiv 60000000000)

/-- The ways in which `SendCode` can end. -/
theorem sendCode_cases (network : Network) (email : Bytes) (draw : Nat) (now : Int)
    (s : MailService) :
    ((emailPattern email = false ∨ s.store.cooldownLeft email now ≠ none) ∧
        (s.sendCode network email draw now).1.code ≠ 0 ∧
        (s.sendCode network email draw now).2 = s) ∨
      (emailPattern email = true ∧ s.store.cooldownLeft email now = none ∧
        ((s.sendCode network email draw now).1.code = 0 ↔ s.mailed network email draw = none) ∧
        (s.sendCode network email draw now).2.store = (s.store.generate email draw now).2) := by
  unfold sendCode
  cases wellFormed : emailPattern email with
  | false => exact Or.inl ⟨Or.inl rfl, by simp, rfl⟩
  | true =>
      rw [if_pos rfl]
      cases left : s.store.cooldownLeft email now with
      | some remaining =>
          have refused : s.store.generate email draw now =
              (⟨[], false, remaining / 1000000000 + 1⟩, s.store) := by
            simp only [CodeStore.generate, left]
          rw [refused]
          exact Or.inl ⟨Or.inr (Option.some_ne_none _), by simp, rfl⟩
      | none =>
          refine Or.inr ⟨rfl, rfl, ?_⟩
          have granted : (s.store.generate email draw now).1 =
              ⟨randomDigits s.store.digits draw, true, 0⟩ := by
            simp only [CodeStore.generate, left]
          dsimp only
          rw [granted, if_pos rfl]
          unfold mailed
          cases Mailer.sendCode network s.mailer email (randomDigits s.store.digits draw)
            (s.ttl.tdiv 60000000000) with
          | none => exact ⟨iff_of_true rfl rfl, rfl⟩
          | some err => exact ⟨iff_of_false (by simp) (Option.some_ne_none err), rfl⟩

end MailService

end AimServer
