import AetherEdge.Io.Dl645

/-!
# Polls of a DL/T 645 meter

`read_single_di`, `read_standard_points` and `poll_once`
(`services/io/src/protocols/adapters/dl645.rs`). A poll asks for one point after the other and
retries, and takes the first complete frame that arrives as the answer. The meter address and the
identifier of the response are decoded but not compared with those of the request.

* `answers_iff`: which responses are taken for the answer to a request, by the bytes that arrive;
* `carried_iff`: a value is that of the point it is reported for exactly when no bytes ever arrive
  for a request that begin with another response.
-/

namespace AetherEdge.Io.Dl645

open List

/-- An entry of `STANDARD_POINTS`. -/
structure StandardPoint where
  diCode : UInt32
  pointId : ℕ
  name : String
  format : DataFormat
  deriving DecidableEq

/-- `DataIdentifier::from_u32(*di_code)`. -/
def StandardPoint.di (point : StandardPoint) : DataIdentifier := .fromU32 point.diCode

/-- Lines 85-117. -/
def standardPoints : List StandardPoint :=
  [⟨0x00010000, 1, "Total positive active energy", .energy⟩,
    ⟨0x00020000, 2, "Total reverse active energy", .energy⟩,
    ⟨0x02010100, 3, "Phase A voltage", .voltage⟩,
    ⟨0x02010200, 4, "Phase B voltage", .voltage⟩,
    ⟨0x02010300, 5, "Phase C voltage", .voltage⟩,
    ⟨0x02020100, 6, "Phase A current", .current⟩,
    ⟨0x02020200, 7, "Phase B current", .current⟩,
    ⟨0x02020300, 8, "Phase C current", .current⟩,
    ⟨0x02030000, 9, "Total active power", .power⟩,
    ⟨0x02040000, 10, "Total reactive power", .power⟩,
    ⟨0x02060000, 11, "Total power factor", .powerFactor⟩]

theorem eq_of_pointId_eq :
    ∀ p ∈ standardPoints, ∀ q ∈ standardPoints, p.pointId = q.pointId → p = q := by
  decide

/-- Lines 693-698. -/
inductive Dl645Transport where
  | tcp
  | serial
  deriving DecidableEq

/-- What `transact` (lines 773-782) says when the stream is closed. -/
def Dl645Transport.closedMsg : Dl645Transport → String
  | .tcp => "Connection closed by remote"
  | .serial => "Serial port closed"

/-- `traits.rs:272-279`. -/
structure PointFailure where
  pointId : ℕ
  error : String
  deriving DecidableEq

/-- A value of the batch, with the requests that were sent when it arrived. -/
structure Reading where
  pointId : ℕ
  value : F64
  sent : List Bytes
  deriving DecidableEq

/-- What the line does with a request, after all the requests sent so far: anything. -/
abbrev Line := List Bytes → Exchange

section Read

variable (line : Line) (transport : Dl645Transport)

/-- The attempts of `read_single_di` (lines 1142-1169): `n` are left. -/
def readAttempts (request : Bytes) :
    ℕ → Option ReadError → List Bytes → Except ReadError Bytes × List Bytes
  | 0, lastError, sent =>
    (.error (lastError.getD (.gateway (.protocol "Unknown error"))), sent)
  | n + 1, _, sent =>
    let sent := sent ++ [request]
    match transact transport.closedMsg (line sent) with
    | .ok frame =>
      match decodeResponse frame with
      | .ok response => (.ok response.data, sent)
      | .error error => readAttempts request n (some (.gateway error)) sent
    | .error error => readAttempts request n (some error) sent

variable (retryCount : ℕ) (meterAddr : MeterAddress)

/-- `read_single_di` (lines 1142-1169) on a connected transport. -/
def readSingleDi (di : DataIdentifier) (sent : List Bytes) :
    Except ReadError Bytes × List Bytes :=
  readAttempts line transport (encodeReadRequest meterAddr di) (retryCount + 1) none sent

/-- What a poll has gathered, and the requests it has sent. -/
structure Poll where
  batch : List Reading := []
  failures : List PointFailure := []
  readCount : ℕ := 0
  errorCount : ℕ := 0
  sent : List Bytes := []

/-- A failure in `read_standard_points` (lines 1172-1219). -/
def Poll.fail (poll : Poll) (point : StandardPoint) (error : String) : Poll :=
  { poll with
    failures := poll.failures ++ [⟨point.pointId, error⟩]
    errorCount := poll.errorCount + 1 }

/-- One point of `read_standard_points` (lines 1172-1219). -/
def readPoint (poll : Poll) (point : StandardPoint) : Poll :=
  let (result, sent) := readSingleDi line transport retryCount meterAddr point.di poll.sent
  let poll := { poll with sent }
  match result with
  | .ok rawData =>
    match parseBcdData rawData point.format with
    | .ok value =>
      { poll with
        batch := poll.batch ++ [⟨point.pointId, value, sent⟩]
        readCount := poll.readCount + 1 }
    | .error error => poll.fail point error.text
  | .error error => poll.fail point error.text

/-- The points, one after another. -/
def readPoints (points : List StandardPoint) : Poll :=
  points.foldl (readPoint line transport retryCount meterAddr) {}

/-- `read_standard_points` (lines 1172-1219). -/
def readStandardPoints : Poll := readPoints line transport retryCount meterAddr standardPoints

end Read

/-- `traits.rs:219-225`. -/
structure PollResult where
  data : List Reading
  failures : List PointFailure

/-- `fail_all_standard_points` (lines 120-125). -/
def failAllStandardPoints (msg : String) : List PointFailure :=
  standardPoints.map fun point => ⟨point.pointId, msg⟩

/-- `poll_once` (lines 1322-1374). -/
def pollOnce (meterAddress : String) (retryCount : ℕ) (transport : Option Dl645Transport)
    (line : Line) : PollResult :=
  match transport with
  | none => ⟨[], failAllStandardPoints "Not connected"⟩
  | some transport =>
    match MeterAddress.parse meterAddress with
    | .error error => ⟨[], failAllStandardPoints ("Invalid meter address: " ++ error.text)⟩
    | .ok meterAddr =>
      let poll := readStandardPoints line transport retryCount meterAddr
      ⟨poll.batch, poll.failures⟩

/-! ## The bytes of an answer -/

/-- From the `n`-th on the reads return the chunks. -/
def Reads (reads : ℕ → ReadOutcome) : ℕ → List Bytes → Prop
  | _, [] => True
  | n, chunk :: chunks => reads n = .data chunk ∧ chunk ≠ [] ∧ Reads reads (n + 1) chunks

/-- The request is written, and what arrives then, in whatever chunks, begins with these bytes. -/
def Exchange.Delivers (exchange : Exchange) (bytes : Bytes) : Prop :=
  exchange.write = .written ∧ ∃ chunks, Reads exchange.reads 0 chunks ∧ bytes <+: chunks.flatten

/-- What arrives for a request begins with the frame of the response, possibly behind wake-up bytes
    or other bytes that do not begin a frame, and this fits in the buffer. -/
def Answers (exchange : Exchange) (response : Dl645Response) : Prop :=
  response.data.length < 252 ∧ ∃ noise, frameStart ∉ noise ∧
    noise.length + (encodeResponse response).length ≤ maxFrameSize ∧
    exchange.Delivers (noise ++ encodeResponse response)

section Answers

variable {closedMsg : String} {reads : ℕ → ReadOutcome} {fuel n : ℕ} {buf frame noise : Bytes}

/-- A frame that is received is complete in the bytes that have arrived. -/
theorem reads_of_receiveLoop (hroom : buf.length < maxFrameSize)
    (h : receiveLoop closedMsg reads fuel n buf = .ok frame) :
    ∃ chunks seen, Reads reads n chunks ∧ seen <+: buf ++ chunks.flatten ∧
      seen.length ≤ maxFrameSize ∧ completeFrame seen = some frame := by
  induction fuel generalizing n buf with
  | zero => cases h
  | succ fuel ih =>
    rw [receiveLoop] at h
    split at h
    · cases h
    · cases h
    next bytes hread =>
    have hcount := length_take (i := maxFrameSize - buf.length) (l := bytes)
    split at h
    · cases h
    next chunk hne =>
    generalize hchunk : bytes.take (maxFrameSize - buf.length) = chunk at h hcount hne
    have hbytes : bytes ≠ [] := by
      rintro rfl
      exact hne (by rw [← hchunk, take_nil])
    have hlen : (buf ++ chunk).length = buf.length + chunk.length := length_append
    have hseen : buf ++ chunk <+: buf ++ bytes := by
      rw [← hchunk, prefix_append_right_inj]
      exact take_prefix _ _
    split at h
    · next hcomplete =>
      cases h
      refine ⟨[bytes], buf ++ chunk, ⟨hread, hbytes, trivial⟩, ?_, by omega, hcomplete⟩
      rw [flatten_cons, flatten_nil, append_nil]
      exact hseen
    split_ifs at h with hfull
    -- the buffer is not full, so the whole chunk is in it
    obtain rfl : bytes = chunk := by rw [← hchunk, take_of_length_le (by omega)]
    obtain ⟨chunks, seen, hreads, hbegins, hfits, hcomplete⟩ := ih (not_le.1 hfull) h
    refine ⟨bytes :: chunks, seen, ⟨hread, hbytes, hreads⟩, ?_, hfits, hcomplete⟩
    rwa [flatten_cons, ← append_assoc]

/-- The first frame that arrives is received, once it is complete. -/
theorem receiveLoop_of_reads {addr : MeterAddress} {ctrl : UInt8} {data : Bytes}
    {chunks : List Bytes} (hnoise : frameStart ∉ noise) (hframe : Framed addr ctrl data frame)
    (h14 : 14 ≤ frame.length) (hfits : noise.length + frame.length ≤ maxFrameSize)
    (hreads : Reads reads n chunks) (hstream : noise ++ frame <+: buf ++ chunks.flatten)
    (hpart : buf.length < noise.length + frame.length) (hfuel : maxFrameSize ≤ buf.length + fuel) :
    receiveLoop closedMsg reads fuel n buf = .ok frame := by
  induction chunks generalizing n buf fuel with
  | nil =>
    have hsize := hstream.length_le
    rw [flatten_nil, append_nil, length_append] at hsize
    omega
  | cons bytes chunks ih =>
    obtain ⟨fuel, rfl⟩ : ∃ k, fuel = k + 1 := ⟨fuel - 1, by omega⟩
    obtain ⟨hread, hbytes, hlater⟩ := hreads
    have hcount := length_take (i := maxFrameSize - buf.length) (l := bytes)
    have hpos := length_pos_of_ne_nil hbytes
    generalize hchunk : bytes.take (maxFrameSize - buf.length) = chunk at hcount
    have hlen : (buf ++ chunk).length = buf.length + chunk.length := length_append
    rw [flatten_cons, ← append_assoc] at hstream
    have hseen : buf ++ chunk <+: buf ++ bytes ++ chunks.flatten := by
      rw [append_assoc, prefix_append_right_inj, ← hchunk]
      exact (List.take_prefix _ _).trans (prefix_append _ _)
    obtain ⟨more, hmore⟩ := hstream
    rw [← hmore] at hseen
    rw [receiveLoop_data _ hread hchunk (ne_nil_of_length_pos (by omega)),
      completeFrame_eq hnoise hframe hseen]
    by_cases hfull : noise.length + frame.length ≤ (buf ++ chunk).length
    · rw [if_pos ⟨by omega, hfull⟩]
    · rw [if_neg fun h => hfull h.2]
      dsimp only
      rw [if_neg (by omega)]
      obtain rfl : bytes = chunk := by rw [← hchunk, take_of_length_le (by omega)]
      exact ih hlater ⟨more, hmore⟩ (by omega) (by omega)

variable (closedMsg) in
/-- A response is taken for the answer exactly if the bytes that arrive begin with its frame. -/
theorem answers_iff {exchange : Exchange} {response : Dl645Response} :
    (∃ frame, transact closedMsg exchange = .ok frame ∧ decodeResponse frame = .ok response) ↔
      Answers exchange response := by
  constructor
  · rintro ⟨frame, hframe, hresponse⟩
    obtain ⟨rfl, hdata⟩ := eq_encodeResponse hresponse
    unfold transact at hframe
    split at hframe
    · cases hframe
    · cases hframe
    next hwritten =>
    obtain ⟨chunks, seen, hreads, hbegins, hfits, hcomplete⟩ :=
      reads_of_receiveLoop (by decide) hframe
    obtain ⟨noise, hnoise, hseen⟩ := completeFrame_eq_some hcomplete
    refine ⟨hdata, noise, hnoise, ?_, hwritten, chunks, hreads, hseen.trans hbegins⟩
    have := hseen.length_le
    rw [length_append] at this
    omega
  · rintro ⟨hdata, noise, hnoise, hfits, hwritten, chunks, hreads, hbegins⟩
    have hframe := framed_encodeResponse hdata
    have hlen := hframe.length_eq
    rw [length_payload] at hlen
    refine ⟨encodeResponse response, ?_, decodeResponse_encodeResponse hdata⟩
    rw [transact, hwritten]
    exact receiveLoop_of_reads hnoise hframe (by omega) hfits hreads hbegins
      (by rw [length_nil]; omega) le_rfl

end Answers

/-- The bytes of data that a format reads. -/
def DataFormat.size : DataFormat → ℕ
  | .energy => 4
  | .voltage | .powerFactor => 2
  | .current | .power => 3
  | .raw => 0

theorem ok_of_ite_iff {c : Prop} [Decidable c] {error : GatewayError} {value : F64} :
    (∃ found, (if c then Except.error error else .ok value) = .ok found) ↔ ¬c := by
  split_ifs with h
  · simp [h]
  · simp [h]

theorem parseBcdData_ok_iff {data : Bytes} {format : DataFormat} :
    (∃ value, parseBcdData data format = .ok value) ↔ format.size ≤ data.length := by
  cases format with
  | raw => simp [parseBcdData, DataFormat.size]
  | energy | voltage | current | power | powerFactor => exact ok_of_ite_iff.trans not_lt

/-! ## What carries a value -/

section Carried

variable (line : Line) (meterAddr : MeterAddress)

/-- The value is that of the data of a response of the meter with the identifier of the point, whose
    frame arrived for the last request sent. -/
def Carried (reading : Reading) : Prop :=
  ∃ point ∈ standardPoints, point.pointId = reading.pointId ∧ ∃ response,
    Answers (line reading.sent) response ∧
    parseBcdData response.data point.format = .ok reading.value ∧
    response.meterAddr = meterAddr ∧ response.dataId = point.di

/-- The requests for a list of points, in order. -/
def requests (points : List StandardPoint) : List Bytes :=
  points.map fun point => encodeReadRequest meterAddr point.di

/-- Whatever was asked before, no bytes arrive for a request that begin with the frame of another
    meter, or of the meter with another identifier, unless its data is too short for the point. -/
def Genuine : Prop :=
  ∀ (asked : List StandardPoint) (point : StandardPoint),
    (∀ p ∈ asked ++ [point], p ∈ standardPoints) → ∀ response,
      Answers (line (requests meterAddr (asked ++ [point]))) response →
      point.format.size ≤ response.data.length →
        response.meterAddr = meterAddr ∧ response.dataId = point.di

variable {line meterAddr}

/-- A request was sent again and again, and succeeded with the response to the last. -/
def Asked (line : Line) (request : Bytes) (sent : List Bytes)
    (out : Except ReadError Bytes × List Bytes) : Prop :=
  ∃ k, out.2 = sent ++ replicate k request ∧ ∀ data, out.1 = .ok data → 0 < k ∧
    ∃ response, Answers (line out.2) response ∧ response.data = data

variable {transport : Dl645Transport}

theorem asked_readAttempts (request : Bytes) (n : ℕ) (lastError : Option ReadError)
    (sent : List Bytes) :
    Asked line request sent (readAttempts line transport request n lastError sent) := by
  induction n generalizing lastError sent with
  | zero => exact ⟨0, by simp [readAttempts], nofun⟩
  | succ n ih =>
    rw [readAttempts]
    have hretry : ∀ error, Asked line request sent
        (readAttempts line transport request n error (sent ++ [request])) := by
      intro error
      obtain ⟨k, hsent, hok⟩ := ih error (sent ++ [request])
      refine ⟨k + 1, ?_, fun data hdata => ⟨Nat.succ_pos k, (hok data hdata).2⟩⟩
      rw [hsent, append_assoc, replicate_succ, singleton_append]
    rcases hfrm : transact transport.closedMsg (line (sent ++ [request])) with error | frame
    · exact hretry _
    dsimp only
    cases hresp : decodeResponse frame with
    | error error => exact hretry _
    | ok response =>
      refine ⟨1, rfl, ?_⟩
      rintro _ ⟨⟩
      exact ⟨Nat.one_pos, response, (answers_iff _).1 ⟨frame, hfrm, hresp⟩, rfl⟩

/-- A poll sends requests for standard points, and what it has reported was carried. -/
def Poll.Sound (line : Line) (meterAddr : MeterAddress) (poll : Poll) : Prop :=
  (∃ asked, (∀ p ∈ asked, p ∈ standardPoints) ∧ poll.sent = requests meterAddr asked) ∧
    ∀ reading ∈ poll.batch, Carried line meterAddr reading

theorem Poll.Sound.readPoint (hgenuine : Genuine line meterAddr) (retryCount : ℕ)
    {poll : Poll} (h : poll.Sound line meterAddr) {point : StandardPoint}
    (hpt : point ∈ standardPoints) :
    (readPoint line transport retryCount meterAddr poll point).Sound line meterAddr := by
  obtain ⟨⟨asked, hpoints, hsent⟩, hbt⟩ := h
  have hasked : Asked line (encodeReadRequest meterAddr point.di) poll.sent
      (readSingleDi line transport retryCount meterAddr point.di poll.sent) :=
    asked_readAttempts _ _ _ _
  unfold Dl645.readPoint
  generalize readSingleDi line transport retryCount meterAddr point.di poll.sent = out at hasked
  obtain ⟨k, hsent', hok⟩ := hasked
  obtain ⟨result, sent⟩ := out
  dsimp only at hsent' hok ⊢
  have hasked' : ∀ p ∈ asked ++ replicate k point, p ∈ standardPoints := by
    intro p hp
    rcases mem_append.1 hp with hp | hp
    · exact hpoints p hp
    · rw [(mem_replicate.1 hp).2]
      exact hpt
  have hreqs : sent = requests meterAddr (asked ++ replicate k point) := by
    rw [hsent', hsent, requests, requests, map_append, map_replicate]
  have hfail : ∀ error, ({ poll with sent }.fail point error).Sound line meterAddr :=
    fun error => ⟨⟨_, hasked', hreqs⟩, hbt⟩
  rcases result with error | rawData
  · exact hfail _
  dsimp only
  rcases hvl : parseBcdData rawData point.format with error | value
  · exact hfail _
  refine ⟨⟨_, hasked', hreqs⟩, fun reading hreading => ?_⟩
  rcases mem_append.1 hreading with hold | hnew
  · exact hbt reading hold
  rw [mem_singleton.1 hnew]
  obtain ⟨hpos, response, hanswers, rfl⟩ := hok rawData rfl
  obtain ⟨j, rfl⟩ := Nat.exists_eq_succ_of_ne_zero hpos.ne'
  have hsplit : asked ++ replicate (j + 1) point =
      asked ++ replicate j point ++ [point] := by
    rw [replicate_succ', append_assoc]
  rw [Nat.succ_eq_add_one, hsplit] at hasked' hreqs
  refine ⟨point, hpt, rfl, response, hanswers, hvl, ?_⟩
  exact hgenuine _ point hasked' response (hreqs ▸ hanswers) (parseBcdData_ok_iff.1 ⟨value, hvl⟩)

theorem sound_readPoints (hgenuine : Genuine line meterAddr) (retryCount : ℕ)
    {points : List StandardPoint} (hpoints : ∀ p ∈ points, p ∈ standardPoints) :
    (readPoints line transport retryCount meterAddr points).Sound line meterAddr := by
  have hfold : ∀ (points : List StandardPoint) (poll : Poll), (∀ p ∈ points, p ∈ standardPoints) →
      poll.Sound line meterAddr →
        (points.foldl (Dl645.readPoint line transport retryCount meterAddr) poll).Sound line
          meterAddr := by
    intro points
    induction points with
    | nil => exact fun poll _ h => h
    | cons point rest ih =>
      intro poll hpoints h
      obtain ⟨hpt, hrest⟩ := forall_mem_cons.1 hpoints
      exact ih _ hrest (h.readPoint hgenuine retryCount hpt)
  exact hfold points {} hpoints ⟨⟨[], nofun, rfl⟩, nofun⟩

/-- Without retries every point is asked for once. -/
theorem sent_readPoint (poll : Poll) (point : StandardPoint) :
    (readPoint line transport 0 meterAddr poll point).sent =
      poll.sent ++ [encodeReadRequest meterAddr point.di] := by
  have hsent : (readSingleDi line transport 0 meterAddr point.di poll.sent).2 =
      poll.sent ++ [encodeReadRequest meterAddr point.di] := by
    unfold readSingleDi
    rw [readAttempts]
    split
    · split <;> rfl
    · rfl
  unfold readPoint
  dsimp only
  split
  · split <;> exact hsent
  · exact hsent

theorem sent_readPoints (points : List StandardPoint) :
    (readPoints line transport 0 meterAddr points).sent = requests meterAddr points := by
  have hfold : ∀ (points : List StandardPoint) (poll : Poll),
      (points.foldl (readPoint line transport 0 meterAddr) poll).sent =
        poll.sent ++ requests meterAddr points := by
    intro points
    induction points with
    | nil => exact fun poll => (append_nil _).symm
    | cons point rest ih =>
      intro poll
      rw [foldl_cons, ih, sent_readPoint, requests, requests, map_cons,
        append_assoc, singleton_append]
  exact hfold points {}

theorem readPoint_reports {poll : Poll} {point : StandardPoint} {frame : Bytes}
    {response : Dl645Response} {value : F64}
    (hfrm : transact transport.closedMsg
      (line (poll.sent ++ [encodeReadRequest meterAddr point.di])) = .ok frame)
    (hresp : decodeResponse frame = .ok response)
    (hvl : parseBcdData response.data point.format = .ok value) :
    ⟨point.pointId, value, poll.sent ++ [encodeReadRequest meterAddr point.di]⟩ ∈
      (readPoint line transport 0 meterAddr poll point).batch := by
  have hread : readSingleDi line transport 0 meterAddr point.di poll.sent =
      (.ok response.data, poll.sent ++ [encodeReadRequest meterAddr point.di]) := by
    unfold readSingleDi
    rw [readAttempts]
    simp only [hfrm, hresp]
  unfold readPoint
  simp only [hread, hvl]
  exact mem_append_right _ (mem_singleton_self _)

variable (line transport meterAddr)

/-- The polls of standard points over a line report only values that were carried by a response of
    the meter with the identifier asked for, exactly when the line is genuine. -/
theorem carried_iff :
    (∀ (retryCount : ℕ) (points : List StandardPoint), (∀ p ∈ points, p ∈ standardPoints) →
      ∀ reading ∈ (readPoints line transport retryCount meterAddr points).batch,
        Carried line meterAddr reading) ↔ Genuine line meterAddr := by
  constructor
  · intro h asked point hpoints response hanswers hsize
    obtain ⟨frame, hframe, hresponse⟩ :=
      (answers_iff transport.closedMsg).2 hanswers
    obtain ⟨value, hvalue⟩ := parseBcdData_ok_iff.2 hsize
    have hsent : (readPoints line transport 0 meterAddr asked).sent = requests meterAddr asked :=
      sent_readPoints asked
    have hrequests : requests meterAddr (asked ++ [point]) =
        requests meterAddr asked ++ [encodeReadRequest meterAddr point.di] := by
      rw [requests, map_append]
      rfl
    rw [hrequests, ← hsent] at hframe
    have hreported := readPoint_reports hframe hresponse hvalue
    have hlast : readPoint line transport 0 meterAddr
        (readPoints line transport 0 meterAddr asked) point =
          readPoints line transport 0 meterAddr (asked ++ [point]) := by
      rw [readPoints, readPoints, foldl_append]
      rfl
    rw [hlast] at hreported
    obtain ⟨point', hpoint', hid, response', hanswers', -, hmatch⟩ :=
      h 0 (asked ++ [point]) hpoints _ hreported
    obtain rfl := eq_of_pointId_eq point' hpoint' point (hpoints point (by simp)) hid
    -- the bytes that arrive begin with one frame only
    obtain ⟨frame', hframe', hresponse'⟩ :=
      (answers_iff transport.closedMsg).2 hanswers'
    cases hframe.symm.trans hframe'
    cases hresponse.symm.trans hresponse'
    exact hmatch
  · intro hgenuine retryCount points hpoints
    exact (sound_readPoints hgenuine retryCount hpoints).2

end Carried

/-! ### A late answer -/

/-- The meter `123456789012`. -/
def meter : MeterAddress := ⟨[0x12, 0x34, 0x56, 0x78, 0x90, 0x12], rfl⟩

/-- The answer for the first point. -/
def positiveEnergy : Dl645Response :=
  ⟨meter, .fromU32 0x00010000, [0x78, 0x56, 0x34, 0x12]⟩

/-- The answer to the first request comes after its last retry, while the second request waits;
    nothing else is answered. -/
def lateLine : Line := fun sent =>
  { write := .written
    reads := fun _ =>
      if sent.length = 4 then .data (encodeResponse positiveEnergy) else .timeout }

/-- The poll reports the positive active energy as the reverse one. -/
theorem late_answer_misreported :
    ∃ reading ∈ (pollOnce "123456789012" 2 (some .tcp) lateLine).data,
      ¬Carried lateLine meter reading := by
  let reading := (pollOnce "123456789012" 2 (some .tcp) lateLine).data.head (by decide +kernel)
  refine ⟨reading, head_mem _, ?_⟩
  rintro ⟨point, hpoint, hid, response, hanswers, -, -, hdi⟩
  obtain ⟨frame, hframe, hresponse⟩ := (answers_iff _).2 hanswers
  have hanswer : transact Dl645Transport.tcp.closedMsg (lateLine reading.sent) =
      .ok (encodeResponse positiveEnergy) := by
    decide +kernel
  cases hanswer.symm.trans hframe
  rw [decodeResponse_encodeResponse (by decide)] at hresponse
  cases hresponse
  have hsecond : point = ⟨0x00020000, 2, "Total reverse active energy", .energy⟩ :=
    eq_of_pointId_eq point hpoint _ (by decide) (hid.trans (by decide +kernel))
  rw [hsecond] at hdi
  revert hdi
  decide

end AetherEdge.Io.Dl645
