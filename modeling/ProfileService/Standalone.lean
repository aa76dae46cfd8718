/-
# A standalone deployment

Values for the parameters of the model: PostgreSQL in UTC behind a driver that ends a text
at its first NUL, the JSON library, the storage of `minio_storage.cpp`, a process in UTC and
a tape on which no statement fails and every transaction starts later than the one before.
-/
import Mathlib.Data.List.TakeWhile
import ProfileService.Lib.JsonText
import ProfileService.QueryExecutor

namespace ProfileService

open Bytes (str)

/-! ## PostgreSQL -/

/-- `timegm`: the Unix time of a date and a time of the day in UTC. -/
def timegm (tm : Tm) : ℤ :=
  -- years begin in March here, as in `gmtime`
  let year := tm.year + 1900 - (if tm.mon < 2 then 1 else 0)
  let month := if tm.mon < 2 then tm.mon + 10 else tm.mon - 2
  let yearOfEra := year.fmod 400
  let dayOfYear := (153 * month + 2).fdiv 5 + tm.mday - 1
  let dayOfEra := 365 * yearOfEra + yearOfEra.fdiv 4 - yearOfEra.fdiv 100 + dayOfYear
  (year.fdiv 400 * 146097 + dayOfEra - 719468) * 86400 + tm.hour * 3600 + tm.min * 60 + tm.sec

/-- `"%Y-%m-%d %H:%M:%S"`. -/
def timestampTextFormat : List TimeField :=
  [.year, .literal 0x2D, .month, .literal 0x2D, .day, .literal 0x20,
    .hour, .literal 0x3A, .minute, .literal 0x3A, .second]

/-- A NUL ends the text of a parameter. -/
def cString (s : Bytes) : Bytes := s.takeWhile (· != 0)

lemma cString_nulFree (s : Bytes) : (cString s).NulFree := fun h => by
  have := List.mem_takeWhile_imp h
  simp at this

lemma cString_of_nulFree {s : Bytes} (h : s.NulFree) : cString s = s := by
  rw [cString, List.takeWhile_eq_self_iff]
  intro c hc
  rw [bne_iff_ne]
  rintro rfl
  exact h hc

lemma cString_validUtf8 {s : Bytes} (h : s.ValidUtf8) : (cString s).ValidUtf8 := by
  have hsplit : cString s ++ s.dropWhile (· != 0) = s := List.takeWhile_append_dropWhile
  rcases hd : s.dropWhile (· != 0) with _ | ⟨c, t⟩
  · rw [hd, List.append_nil] at hsplit
    rwa [hsplit]
  · have hc : c = 0 := by
      have := List.head?_dropWhile_not (· != 0) s
      simpa [hd] using this
    rw [← hsplit, hd] at h
    exact h.of_append_ascii (by rw [hc]; decide)

/-- A server with sessions in UTC.  It reads the timestamps that the service sends; any other
text is the epoch to it. -/
def Postgres.utc : Postgres where
  receive s := if s.ValidUtf8 then some (cString s) else none
  receive_valid := by
    intro s v h
    split_ifs at h with hs
    rw [← Option.some.inj h]
    exact ⟨hs, cString_validUtf8 hs, cString_nulFree s⟩
  receive_verbatim := by
    intro s hs hnul
    rw [if_pos hs, cString_of_nulFree hnul]
  timestamptzIn s := some (((getTime timestampTextFormat s).map timegm).getD 0 * 1000000)
  timestamptzOut t := strftime (gmtime (t.fdiv 1000000)) ++ str "+00"

/-! ## The avatar storage -/

/-- `MinIOStorage`: it keeps nothing, and an address is made of the user and the type. -/
def MinIOStorage (endpoint : Bytes) : AvatarStorage Unit where
  upload userId data contentType s :=
    if data = [] then (.error ⟨str "Avatar payload is empty"⟩, s)
    else
      let extension :=
        if contentType = str "image/png" then str "png"
        else if contentType = str "image/webp" then str "webp"
        else str "jpg"
      let baseUrl := if endpoint = [] then str "http://localhost:9000" else endpoint
      let baseUrl :=
        if baseUrl.rfind (str "http://") 0 = some 0 ∨ baseUrl.rfind (str "https://") 0 = some 0
        then baseUrl
        else str "http://" ++ baseUrl
      (.ok (baseUrl ++ str "/" ++ str "avatars" ++ str "/" ++ userId ++ str "/avatar." ++
        extension), s)
  delete _ s := (.ok (), s)

/-! ## The tape -/

/-- The last 32 hexadecimal digits of a number. -/
def hexDigits (n : ℕ) : Bytes :=
  (List.range 32).map fun i => JsonText.hexDigit (n / 16 ^ (31 - i) % 16)

/-- The UUID with the digits of a number. -/
def numbered (n : ℕ) : Uuid :=
  ⟨Uuid.render 16 (hexDigits n), by
    have hlower : ∀ d < 16, Uuid.hexDigit (JsonText.hexDigit d) = some (JsonText.hexDigit d) := by
      decide
    have hhex : ∀ d ∈ hexDigits n, Uuid.hexDigit d = some d := by
      intro d hd
      obtain ⟨i, -, rfl⟩ := List.mem_map.mp hd
      exact hlower _ (Nat.mod_lt _ (by omega))
    have hscan : Uuid.scan 16 (Uuid.render 16 (hexDigits n)) = some (hexDigits n, []) :=
      Uuid.scan_render (by simp [hexDigits]) hhex
    have hbrace : (Uuid.render 16 (hexDigits n)).head? ≠ some 0x7B := by
      intro h
      have hlt := (Uuid.render_ascii hhex 0x7B (List.mem_of_mem_head? h)).2
      exact absurd hlt (by decide)
    rw [Uuid.canonical, if_neg hbrace, hscan]⟩

/-- No statement fails, and the statements are one second apart. -/
def Tape.quiet : Tape where
  fault _ := none
  refusal _ := ⟨str "ERROR: statement refused"⟩
  txnTime n := 1000000 * n
  rowId := numbered
  clock n := 1000000000 * n

/-- The deployment with one of the two schemas. -/
def Env.standalone (schema : Schema) : Env Unit where
  toTape := Tape.quiet
  db := { toPostgres := Postgres.utc, schema := schema }
  json := JsonText.codec ⟨str "[json.exception.parse_error.101]"⟩
    ⟨str "[json.exception.type_error.316]"⟩
  avatarStorage := MinIOStorage []
  mktime := timegm

/-- A request of HTTP/1.1 by a user. -/
def requestBy (user : Bytes) (method : Verb) (target body : Bytes) : Request where
  method := method
  target := target
  version := 11
  fields := [(str "X-User-ID", user)]
  body := body

/-- A user has got a profile. -/
def aliceRun : List Request :=
  [requestBy (str "gateway") .post (str "/internal/profiles")
    (str "\x7b\"user_id\":\"alice\"\x7d")]

end ProfileService
