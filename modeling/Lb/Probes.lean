import Lb.Types
import Lb.Utf8

/-!
# HTTP probes

The health checks by an HTTP GET. The network is a parameter: what each operation
on it ends with, and the bytes that have arrived when the probe reads. One read of
1024 bytes is all that a probe sees of a response.
-/
namespace Lb.Probes
open Lb.Addr Lb.Types Lb.Utf8

inductive ProbeResult
  | Success
  | Failure (reason : String)
deriving DecidableEq

/-! ### The response -/

/-- `lines().next()`: the text before its first line feed, without the carriage
    return that the line feed may follow. -/
def first_line (text : List Char) : Option (List Char) :=
  let line := text.takeWhile (· ≠ '\n')
  if text = [] then none
  else if line.length < text.length ∧ line.getLast? = some '\r' then some line.dropLast
  else some line

def contains (pattern : List Char) : List Char → Bool
  | [] => pattern.isEmpty
  | c :: text => pattern.isPrefixOf (c :: text) || contains pattern text

/-- The verdict of both probes on a response. -/
def verdict (buf : List UInt8) : ProbeResult :=
  match first_line (from_utf8_lossy buf) with
  | some line =>
    let status_line := String.ofList line
    if contains [' ','2'] line then .Success else .Failure s!"non-2xx response: {status_line}"
  | none => .Failure "empty response"

/-! ### The probes -/

/-- What an operation with a time limit ends with. -/
inductive Timed (α : Type)
  | ok (value : α)
  | err (e : String)
  | elapsed

/-- The length of the buffer that a probe reads into. -/
def BUFFER : Nat := 1024

def request (path : String) (target : Backend) : String :=
  let ip := String.ofList target.ip.fmt
  s!"GET {path} HTTP/1.1\r\nHost: {ip}\r\nConnection: close\r\n\r\n"

/-- A connection without TLS. -/
structure TcpStream where
  connect : List Char → Timed Unit
  writable : Except String Unit
  try_write : String → Except String Nat
  readable : Timed Unit
  try_read : Except String (List UInt8)

structure HttpProbe where
  path : String

def HttpProbe.check (probe : HttpProbe) (stream : TcpStream) (target : Backend) : ProbeResult :=
  match stream.connect target.name with
  | .err e => .Failure s!"connect failed: {e}"
  | .elapsed => .Failure "connect timed out"
  | .ok () =>
  match stream.writable with
  | .error e => .Failure s!"stream not writable: {e}"
  | .ok () =>
  match stream.try_write (request probe.path target) with
  | .error e => .Failure s!"write failed: {e}"
  | .ok _ =>
  match stream.readable with
  | .err e => .Failure s!"read error: {e}"
  | .elapsed => .Failure "read timed out"
  | .ok () =>
  match stream.try_read with
  | .error _ => .Failure "no response data"
  | .ok arrived => if arrived = [] then .Failure "no response data" else verdict (arrived.take BUFFER)

/-- A connection with TLS, in which the address of the backend is the server name. -/
structure TlsStream where
  connect : List Char → Timed Unit
  handshake : IpAddr → Timed Unit
  write_all : String → Except String Unit
  read : Timed (List UInt8)

structure HttpsProbe where
  path : String

def HttpsProbe.check (probe : HttpsProbe) (stream : TlsStream) (target : Backend) : ProbeResult :=
  match stream.connect target.name with
  | .err e => .Failure s!"connect failed: {e}"
  | .elapsed => .Failure "connect timed out"
  | .ok () =>
  match stream.handshake target.ip with
  | .err e => .Failure s!"TLS handshake failed: {e}"
  | .elapsed => .Failure "TLS handshake timed out"
  | .ok () =>
  match stream.write_all (request probe.path target) with
  | .error e => .Failure s!"write failed: {e}"
  | .ok () =>
  match stream.read with
  | .err e => .Failure s!"read error: {e}"
  | .elapsed => .Failure "read timed out"
  | .ok arrived => if arrived = [] then .Failure "no response data" else verdict (arrived.take BUFFER)

/-- The bytes arrive in answer to the request. -/
structure TcpStream.Answers (stream : TcpStream) (path : String) (target : Backend) (arrived : List UInt8) : Prop where
  connected : stream.connect target.name = .ok ()
  writable : stream.writable = .ok ()
  written : ∃ n, stream.try_write (request path target) = .ok n
  readable : stream.readable = .ok ()
  read : stream.try_read = .ok arrived

structure TlsStream.Answers (stream : TlsStream) (path : String) (target : Backend) (arrived : List UInt8) : Prop where
  connected : stream.connect target.name = .ok ()
  agreed : stream.handshake target.ip = .ok ()
  written : stream.write_all (request path target) = .ok ()
  read : stream.read = .ok arrived

section
variable {pattern text line : List Char} {buf arrived : List UInt8} {path : String} {target : Backend}

theorem contains_iff : contains pattern text = true ↔ pattern <:+: text := by
  induction text with
  | nil => simp [contains,List.infix_nil]
  | cons c text ih => rw [contains,Bool.or_eq_true,List.isPrefixOf_iff_prefix,ih,List.infix_cons_iff]

/-- What ends a line is no part of a pattern without it. -/
theorem infix_concat {α : Type} {pattern line : List α} {last : α} (absent : last ∉ pattern) :
    pattern <:+: line ++ [last] ↔ pattern <:+: line := by
  rw [List.infix_concat_iff]
  constructor
  · rintro (⟨before,whole⟩ | inside)
    · cases pattern using List.reverseRecOn with
      | nil => exact List.nil_infix
      | append_singleton pattern c =>
        rw [← List.append_assoc] at whole
        obtain rfl : c = last := by simpa using (List.append_inj' whole rfl).2
        simp at absent
    · exact inside
  · intro inside
    exact .inr inside

/-- The first line holds a pattern that the text before the first line feed holds. -/
theorem first_line_contains (nonempty : text ≠ []) (plain : '\r' ∉ pattern) :
    ∃ line, first_line text = some line ∧ (pattern <:+: line ↔ pattern <:+: text.takeWhile (· ≠ '\n')) := by
  unfold first_line
  dsimp only
  rw [if_neg nonempty]
  split_ifs with ended
  · refine ⟨_,rfl,?_⟩
    obtain ⟨front,whole⟩ := List.getLast?_eq_some_iff.mp ended.2
    rw [whole,List.dropLast_concat,infix_concat plain]
  · exact ⟨_,rfl,Iff.rfl⟩

/-- A response is a success if a space and a two stand on its first line, wherever
    they stand. -/
theorem verdict_success (nonempty : buf ≠ []) : verdict buf = .Success ↔ [32,50] <:+: buf.takeWhile (· ≠ 10) := by
  have reads := from_utf8_lossy_reads buf
  have shown : from_utf8_lossy buf ≠ [] := by
    intro empty
    rw [empty] at reads
    cases reads
    exact nonempty rfl
  obtain ⟨line,first,same⟩ := @first_line_contains [' ','2'] _ shown (by simp)
  have cut : Reads (buf.takeWhile (· ≠ 10)) ((from_utf8_lossy buf).takeWhile (· ≠ '\n')) := reads.takeWhile (by decide)
  have seven_bits : ∀ b ∈ ([32,50] : List UInt8), b < 0x80 := by simp
  have bytes : [' ','2'] <:+: (from_utf8_lossy buf).takeWhile (· ≠ '\n') ↔ [32,50] <:+: buf.takeWhile (· ≠ 10) :=
    cut.infix_iff seven_bits
  unfold verdict
  rw [first]
  dsimp only
  rw [← bytes]
  rw [← contains_iff] at same
  by_cases found : contains [' ','2'] line = true
  · rw [if_pos found]
    exact iff_of_true rfl (same.mp found)
  · rw [if_neg found]
    exact iff_of_false (by simp) fun inside => found (same.mpr inside)

/-- What a probe makes of the bytes that have arrived when it reads. -/
theorem read_success :
    (if arrived = [] then ProbeResult.Failure "no response data" else verdict (arrived.take BUFFER)) = .Success ↔
      [32,50] <:+: (arrived.take BUFFER).takeWhile (· ≠ 10) := by
  by_cases empty : arrived = []
  · subst empty
    simp
  · rw [if_neg empty]
    exact verdict_success (by simp [BUFFER,empty])

/-- A probe succeeds when every operation does and the first line of what it reads
    holds a space and a two. -/
theorem HttpProbe.check_success {probe : HttpProbe} {stream : TcpStream} :
    probe.check stream target = .Success ↔
      ∃ arrived, stream.Answers probe.path target arrived ∧ [32,50] <:+: (arrived.take BUFFER).takeWhile (· ≠ 10) := by
  constructor
  · intro success
    unfold check at success
    split at success <;> try contradiction
    rename_i connected
    split at success <;> try contradiction
    rename_i writable
    split at success <;> try contradiction
    rename_i written
    split at success <;> try contradiction
    rename_i readable
    split at success <;> try contradiction
    rename_i arrived read
    exact ⟨arrived,⟨connected,writable,⟨_,written⟩,readable,read⟩,read_success.mp success⟩
  · rintro ⟨arrived,⟨connected,writable,⟨n,written⟩,readable,read⟩,found⟩
    unfold check
    rw [connected,writable,written,readable,read]
    exact read_success.mpr found
theorem HttpsProbe.check_success {probe : HttpsProbe} {stream : TlsStream} :
    probe.check stream target = .Success ↔
      ∃ arrived, stream.Answers probe.path target arrived ∧ [32,50] <:+: (arrived.take BUFFER).takeWhile (· ≠ 10) := by
  constructor
  · intro success
    unfold check at success
    split at success <;> try contradiction
    rename_i connected
    split at success <;> try contradiction
    rename_i agreed
    split at success <;> try contradiction
    rename_i written
    split at success <;> try contradiction
    rename_i arrived read
    exact ⟨arrived,⟨connected,agreed,written,read⟩,read_success.mp success⟩
  · rintro ⟨arrived,⟨connected,agreed,written,read⟩,found⟩
    unfold check
    rw [connected,agreed,written,read]
    exact read_success.mpr found

/-- What arrives is one thing. -/
theorem TcpStream.Answers.same {stream : TcpStream} {other : List UInt8} (answers : stream.Answers path target arrived)
    (answers' : stream.Answers path target other) : other = arrived :=
  Except.ok.inj (answers'.read.symm.trans answers.read)
theorem TlsStream.Answers.same {stream : TlsStream} {other : List UInt8} (answers : stream.Answers path target arrived)
    (answers' : stream.Answers path target other) : other = arrived :=
  Timed.ok.inj (answers'.read.symm.trans answers.read)

end

/-! ### Status lines -/

def digit (n : Nat) : UInt8 := UInt8.ofNat (48 + n)

/-- A response that begins with a status line: the version, the three digits of the
    code and the reason phrase, up to the end of the line or of the response. -/
structure Response where
  minor : Nat
  code : Nat
  reason : List UInt8
  ending : List UInt8
  one_digit : minor < 10
  three_digits : code < 1000
  one_line : 10 ∉ reason
  ends : ending = [] ∨ (∃ body, ending = 10 :: body) ∨ ∃ body, ending = 13 :: 10 :: body

namespace Response
variable (r : Response)

/-- What stands before the reason phrase: `HTTP/1.`, a digit, a space, the code and a space. -/
def status : List UInt8 :=
  [72,84,84,80,47,49,46,digit r.minor,32,digit (r.code / 100),digit (r.code / 10 % 10),digit (r.code % 10),32]
def bytes : List UInt8 := r.status ++ r.reason ++ r.ending

def Is2xx : Prop := 200 ≤ r.code ∧ r.code ≤ 299

/-- A space and a two stand in the reason phrase, or a two at its front, within what
    a probe reads. -/
def Misleads : Prop := [32,50] <:+: 32 :: r.reason.take (BUFFER - 13)

variable {r}

theorem toNat_digit {n : Nat} (small : n < 10) : (digit n).toNat = 48 + n := by
  rw [digit,UInt8.toNat_ofNat']
  exact Nat.mod_eq_of_lt (by omega)
theorem digit_eq_two {n : Nat} (small : n < 10) : 50 = digit n ↔ n = 2 := by
  rw [← UInt8.toNat_inj,toNat_digit small]
  simp only [UInt8.reduceToNat]
  omega
theorem ne_digit {n : Nat} {b : UInt8} (small : n < 10) (below : b < 48) : b ≠ digit n := by
  simp only [UInt8.lt_iff_toNat_lt,UInt8.reduceToNat] at below
  rw [Ne,← UInt8.toNat_inj,toNat_digit small]
  omega

theorem infix_skip {b : UInt8} {bytes : List UInt8} (other : 32 ≠ b) : [32,50] <:+: b :: bytes ↔ [32,50] <:+: bytes := by
  rw [List.infix_cons_iff,List.cons_prefix_cons]
  exact or_iff_right fun front => other front.1
theorem infix_space {b : UInt8} {bytes : List UInt8} :
    [32,50] <:+: 32 :: b :: bytes ↔ 50 = b ∨ [32,50] <:+: b :: bytes := by
  rw [List.infix_cons_iff,List.cons_prefix_cons,List.cons_prefix_cons]
  simp

/-- A space and a two stand in a status line where a code of two hundred does, or
    after the code. -/
theorem status_infix (reason : List UInt8) : [32,50] <:+: r.status ++ reason ↔ r.Is2xx ∨ [32,50] <:+: 32 :: reason := by
  have space : (32 : UInt8) < 48 := by decide
  have code := r.three_digits
  have minor := ne_digit r.one_digit space
  have hundreds := @ne_digit (r.code / 100) _ (by omega) space
  have tens := @ne_digit (r.code / 10 % 10) _ (by omega) space
  have ones := @ne_digit (r.code % 10) _ (by omega) space
  have range : 50 = digit (r.code / 100) ↔ r.Is2xx := by
    rw [digit_eq_two (by omega)]
    unfold Is2xx
    omega
  unfold status
  simp only [List.cons_append,List.nil_append]
  iterate 7 rw [infix_skip (by decide)]
  rw [infix_skip minor,infix_space,infix_skip hundreds,infix_skip tens,infix_skip ones,range]

theorem status_one_line : 10 ∉ r.status := by
  have feed : (10 : UInt8) < 48 := by decide
  have code := r.three_digits
  have minor := ne_digit r.one_digit feed
  have hundreds := @ne_digit (r.code / 100) _ (by omega) feed
  have tens := @ne_digit (r.code / 10 % 10) _ (by omega) feed
  have ones := @ne_digit (r.code % 10) _ (by omega) feed
  simp [status,minor,hundreds,tens,ones]

/-- The first line, with the carriage return at its end. -/
theorem bytes_line : r.bytes.takeWhile (· ≠ 10) = r.status ++ r.reason ∨
    r.bytes.takeWhile (· ≠ 10) = r.status ++ r.reason ++ [13] := by
  have line : ∀ b ∈ r.status ++ r.reason, decide (b ≠ 10) = true := by
    intro b listed
    rw [decide_eq_true_eq]
    rintro rfl
    rcases List.mem_append.mp listed with listed | listed
    · exact r.status_one_line listed
    · exact r.one_line listed
  unfold bytes
  rw [List.takeWhile_append_of_pos line]
  obtain empty | ⟨body,feed⟩ | ⟨body,feed⟩ := r.ends
  · left
    rw [empty,List.takeWhile_nil,List.append_nil]
  · left
    rw [feed,List.takeWhile_cons_of_neg (by decide),List.append_nil]
  · right
    rw [feed,List.takeWhile_cons_of_pos (by decide),List.takeWhile_cons_of_neg (by decide)]

/-- What a probe reads of a response is a success with a code of two hundred, and
    with a reason phrase that misleads it. -/
theorem read_infix : [32,50] <:+: (r.bytes.take BUFFER).takeWhile (· ≠ 10) ↔ r.Is2xx ∨ r.Misleads := by
  have cut : (r.status ++ r.reason).take BUFFER = r.status ++ r.reason.take (BUFFER - 13) := by
    rw [List.take_append]
    rfl
  rw [Misleads,← status_infix,← cut,← List.take_takeWhile]
  obtain line | line := r.bytes_line
  · rw [line]
  · rw [line,List.take_append]
    cases BUFFER - (r.status ++ r.reason).length with
    | zero => rw [List.take_zero,List.append_nil]
    | succ n => rw [List.take_succ_cons,List.take_nil,infix_concat (by decide)]

end Response

/-! ### Verdicts on the code -/

section
variable {r : Response} {target : Backend}

/-- Where a response is all that can arrive, what arrives is a success with a code of
    two hundred, and with what misleads a probe. -/
theorem arrived_infix {Answers : List UInt8 → Prop} (answers : Answers r.bytes)
    (same : ∀ arrived, Answers arrived → arrived = r.bytes) :
    (∃ arrived, Answers arrived ∧ [32,50] <:+: (arrived.take BUFFER).takeWhile (· ≠ 10)) ↔ r.Is2xx ∨ r.Misleads := by
  constructor
  · rintro ⟨arrived,answers',found⟩
    rw [same arrived answers'] at found
    exact Response.read_infix.mp found
  · intro found
    exact ⟨r.bytes,answers,Response.read_infix.mpr found⟩

theorem HttpProbe.check_response {probe : HttpProbe} {stream : TcpStream}
    (answers : stream.Answers probe.path target r.bytes) :
    probe.check stream target = .Success ↔ r.Is2xx ∨ r.Misleads := by
  rw [check_success]
  exact arrived_infix answers fun _ => answers.same
theorem HttpsProbe.check_response {probe : HttpsProbe} {stream : TlsStream}
    (answers : stream.Answers probe.path target r.bytes) :
    probe.check stream target = .Success ↔ r.Is2xx ∨ r.Misleads := by
  rw [check_success]
  exact arrived_infix answers fun _ => answers.same

end

/-- The verdicts of the probes on a response are those on its code if the code is one
    of two hundred or the reason phrase does not mislead. -/
theorem verdict_is_code_iff (r : Response) (target : Backend) :
    (∀ (probe : HttpProbe) (stream : TcpStream), stream.Answers probe.path target r.bytes →
      ((probe.check stream target = .Success ↔ r.Is2xx) ↔ r.Is2xx ∨ ¬ r.Misleads)) ∧
    ∀ (probe : HttpsProbe) (stream : TlsStream), stream.Answers probe.path target r.bytes →
      ((probe.check stream target = .Success ↔ r.Is2xx) ↔ r.Is2xx ∨ ¬ r.Misleads) := by
  have exact_when : ((r.Is2xx ∨ r.Misleads) ↔ r.Is2xx) ↔ r.Is2xx ∨ ¬ r.Misleads := by
    constructor
    · intro same
      by_cases success : r.Is2xx
      · exact .inl success
      · exact .inr fun misleads => success (same.mp (.inr misleads))
    · rintro (success | plain)
      · exact iff_of_true (.inl success) success
      · exact or_iff_left plain
  constructor
  · intro probe stream answers
    rw [HttpProbe.check_response answers]
    exact exact_when
  · intro probe stream answers
    rw [HttpsProbe.check_response answers]
    exact exact_when

private def probed_backend : Backend := .new (.V4 ⟨10,0,0,1⟩) 8080
private def answering (response : List UInt8) : TcpStream :=
  ⟨fun _ => .ok (),.ok (),fun request => .ok request.utf8ByteSize,.ok (),.ok response⟩
private def answering_tls (response : List UInt8) : TlsStream :=
  ⟨fun _ => .ok (),fun _ => .ok (),fun _ => .ok (),.ok response⟩
private theorem answering_answers (path : String) (response : List UInt8) :
    (answering response).Answers path probed_backend response := ⟨rfl,rfl,⟨_,rfl⟩,rfl,rfl⟩
private theorem answering_tls_answers (path : String) (response : List UInt8) :
    (answering_tls response).Answers path probed_backend response := ⟨rfl,rfl,rfl,rfl⟩

/-- `HTTP/1.1 503 2 errors`. -/
private def two_errors : Response where
  minor := 1
  code := 503
  reason := as_bytes ['2',' ','e','r','r','o','r','s']
  ending := [13,10,13,10]
  one_digit := by decide
  three_digits := by decide
  one_line := by decide
  ends := .inr (.inr ⟨[13,10],rfl⟩)

/-- The probes succeed with a code of 503 and a reason phrase that begins with a two. -/
theorem error_succeeds : ∃ (r : Response) (target : Backend) (probe : HttpProbe) (stream : TcpStream) (secure : HttpsProbe)
    (tls : TlsStream), stream.Answers probe.path target r.bytes ∧ tls.Answers secure.path target r.bytes ∧ ¬ r.Is2xx ∧
      probe.check stream target = .Success ∧ secure.check tls target = .Success := by
  refine ⟨two_errors,probed_backend,⟨"/healthz"⟩,answering two_errors.bytes,⟨"/healthz"⟩,answering_tls two_errors.bytes,
    answering_answers _ _,answering_tls_answers _ _,?_,?_,?_⟩
  · unfold Response.Is2xx
    decide
  · decide +kernel
  · decide +kernel

theorem verdict_is_code_iff_two_errors :
    (((⟨"/healthz"⟩ : HttpProbe).check (answering two_errors.bytes) probed_backend = .Success ↔ two_errors.Is2xx) ↔
      two_errors.Is2xx ∨ ¬ two_errors.Misleads) ∧
    (((⟨"/healthz"⟩ : HttpsProbe).check (answering_tls two_errors.bytes) probed_backend = .Success ↔ two_errors.Is2xx) ↔
      two_errors.Is2xx ∨ ¬ two_errors.Misleads) :=
  ⟨(verdict_is_code_iff two_errors probed_backend).1 _ _ (answering_answers _ _),
    (verdict_is_code_iff two_errors probed_backend).2 _ _ (answering_tls_answers _ _)⟩

end Lb.Probes
