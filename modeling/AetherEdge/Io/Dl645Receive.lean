import AetherEdge.Io.Dl645

/-!
# Responses of a DL/T 645 meter

What `receive_frame` and `decode_response` make of the response of a meter, preceded by wake-up
bytes and split into reads in any way (`services/io/src/protocols/adapters/dl645.rs`).

* `receiveLoop_delivers`: the receiver returns the frame that was sent if frame and wake-up bytes
  fill the 14 bytes it waits for and fit in its buffer, and no other;
* `returned_iff`: an error response of one data byte has 13 bytes, less than both functions ask
  for, so the error of the meter is reported only when more data bytes follow its code. A code that
  `Dl645Error` does not have is reported as `OtherError`, which is another code.
-/

namespace AetherEdge.Io.Dl645

open List

/-- A response of a meter: a value, or an error code and what follows it. -/
inductive MeterResponse where
  | normal (response : Dl645Response)
  | error (meterAddr : MeterAddress) (code : UInt8) (rest : Bytes)

namespace MeterResponse

/-- At most 200 bytes of a value after the identifier, and no more of an error than the length byte
    can count. -/
def WellFormed : MeterResponse → Prop
  | .normal response => response.data.length ≤ 200
  | .error _ _ rest => rest.length < 255

/-- The bytes of a response on the line. -/
def frame : MeterResponse → Bytes
  | .normal response => encodeResponse response
  | .error meterAddr code rest =>
    let data := encodeData (code :: rest)
    finishFrame ([frameStart] ++ meterAddr.toWireBytes ++
      [frameStart, ctrlReadDataErr, UInt8.ofNat data.length] ++ data)

/-- What the caller is to get of a response: the identifier and the payload it carries, or the error
    with the code it carries. -/
def Returned : MeterResponse → Except GatewayError Dl645Response → Prop
  | .normal response, result => result = .ok response
  | .error _ code _, result =>
    ∃ error : Dl645Error, error.discriminant = code ∧
      result = .error (.protocol ("Meter error: " ++ error.text))

/-- An error code is one of `Dl645Error` and is followed by further bytes, and its frame fits in the
    buffer. -/
def Readable (wake : ℕ) : MeterResponse → Prop
  | .normal _ => True
  | .error _ code rest =>
    code ∈ [0x01, 0x02, 0x04, 0x08, 0x10] ∧ rest ≠ [] ∧ wake + (13 + rest.length) ≤ maxFrameSize

end MeterResponse

/-- From the `n`-th on the reads return the chunks, and then nothing arrives any more. -/
def Delivers (reads : ℕ → ReadOutcome) : ℕ → List Bytes → Prop
  | n, [] => reads n = .timeout
  | n, chunk :: chunks => reads n = .data chunk ∧ chunk ≠ [] ∧ Delivers reads (n + 1) chunks

section Receive

variable {wake : ℕ} {addr : MeterAddress} {ctrl : UInt8} {data frame buf : Bytes}

theorem not_mem_wake : frameStart ∉ replicate wake (0xFE : UInt8) :=
  fun h => absurd (eq_of_mem_replicate h) (by decide)

variable (closedMsg : String) {reads : ℕ → ReadOutcome} {n fuel : ℕ} {chunks : List Bytes}

/-- What the receiver makes of the bytes that have not arrived yet. -/
theorem receiveLoop_delivers (hwake : wake ≤ 4) (hframe : Framed addr ctrl data frame)
    (hreads : Delivers reads n chunks)
    (hbuf : buf ++ chunks.flatten = List.replicate wake 0xFE ++ frame)
    (hpart : ¬(14 ≤ buf.length ∧ wake + frame.length ≤ buf.length))
    (hroom : buf.length < maxFrameSize) (hfuel : maxFrameSize ≤ buf.length + fuel) :
    receiveLoop closedMsg reads fuel n buf =
      if wake + frame.length < 14 then .error .readTimeout
      else if wake + frame.length ≤ maxFrameSize then .ok frame
      else .error (.gateway (.protocol "Response too large")) := by
  induction chunks generalizing n buf fuel with
  | nil =>
    obtain ⟨fuel, rfl⟩ : ∃ k, fuel = k + 1 := ⟨fuel - 1, by omega⟩
    have hsize := congrArg List.length hbuf
    simp only [flatten_nil, append_nil, length_append,
      length_replicate] at hsize
    rw [if_pos (by omega), receiveLoop, show reads n = .timeout from hreads]
  | cons chunk chunks ih =>
    obtain ⟨fuel, rfl⟩ : ∃ k, fuel = k + 1 := ⟨fuel - 1, by omega⟩
    obtain ⟨hread, hne, hlater⟩ := hreads
    have hpos := length_pos_of_ne_nil hne
    rw [flatten_cons, ← append_assoc] at hbuf
    have hsize := congrArg List.length hbuf
    simp only [length_append, length_replicate] at hsize
    have hcount := length_take (i := maxFrameSize - buf.length) (l := chunk)
    have htake := take_prefix (maxFrameSize - buf.length) chunk
    generalize htaken : chunk.take (maxFrameSize - buf.length) = taken at hcount htake
    have hlen : (buf ++ taken).length = buf.length + taken.length := length_append
    have hbegins : buf ++ taken <+: replicate wake 0xFE ++ frame := by
      rw [← hbuf, append_assoc, prefix_append_right_inj]
      exact htake.trans (prefix_append _ _)
    have hmax : maxFrameSize = 256 := rfl
    rw [receiveLoop_data closedMsg hread htaken (ne_nil_of_length_pos (by omega)),
      completeFrame_eq not_mem_wake hframe (hbegins.trans (prefix_append _ [])), length_replicate]
    by_cases hfull : 14 ≤ (buf ++ taken).length ∧ wake + frame.length ≤ (buf ++ taken).length
    · have hlong : ¬wake + frame.length < 14 := by omega
      have hfits : wake + frame.length ≤ maxFrameSize := by omega
      rw [if_pos hfull, if_neg hlong, if_pos hfits]
    rw [if_neg hfull]
    dsimp only
    by_cases hlarge : maxFrameSize ≤ (buf ++ taken).length
    · rw [if_pos hlarge, if_neg (by omega), if_neg (by omega)]
    · rw [if_neg hlarge]
      obtain rfl : chunk = taken := by rw [← htaken, take_of_length_le (by omega)]
      exact ih hlater hbuf hfull (not_le.1 hlarge) (by omega)

end Receive

theorem decodeResponse_short {frame : Bytes} (h : frame.length = 13) :
    decodeResponse frame = .error (.protocol "Frame too short: 13 bytes") := by
  unfold decodeResponse
  dsimp only
  rw [if_pos (by omega), h]
  rfl

theorem ofCode_discriminant {code : UInt8} (h : code ∈ [0x01, 0x02, 0x04, 0x08, 0x10]) :
    (Dl645Error.ofCode code).discriminant = code := by
  simp only [mem_cons, not_mem_nil, or_false] at h
  rcases h with rfl | rfl | rfl | rfl | rfl <;> rfl

/-- The response of a meter is returned exactly when it is a value, or a known error code followed by
    further bytes that fit. -/
theorem returned_iff (closedMsg : String) {reads : ℕ → ReadOutcome} {chunks : List Bytes}
    {wake : ℕ} {sent : MeterResponse} (hwake : wake ≤ 4) (hsent : sent.WellFormed)
    (hreads : Delivers reads 0 chunks)
    (hchunks : chunks.flatten = List.replicate wake 0xFE ++ sent.frame) :
    (∃ frame, receiveFrame closedMsg reads = .ok frame ∧ sent.Returned (decodeResponse frame)) ↔
      sent.Readable wake := by
  have hmax : maxFrameSize = 256 := rfl
  cases sent with
  | normal response =>
    have hdata : response.data.length ≤ 200 := hsent
    have hframe := framed_encodeResponse (show response.data.length < 252 by omega)
    have hlen := hframe.length_eq
    rw [length_payload] at hlen
    have hreceived : receiveFrame closedMsg reads = _ :=
      receiveLoop_delivers closedMsg hwake hframe hreads hchunks (by simp) (by decide) le_rfl
    rw [if_neg (by omega), if_pos (by omega)] at hreceived
    exact iff_of_true ⟨_, hreceived, decodeResponse_encodeResponse (by omega)⟩ trivial
  | error meterAddr code rest =>
    have hrest : rest.length < 255 := hsent
    have hsize : (encodeData (code :: rest)).length = rest.length + 1 := length_map _
    have hframe := framed_finishFrame meterAddr ctrlReadDataErr
      (show (encodeData (code :: rest)).length < 256 by omega)
    have hlen := hframe.length_eq
    have hreceived : receiveFrame closedMsg reads = _ :=
      receiveLoop_delivers closedMsg hwake hframe hreads hchunks (by simp) (by decide) le_rfl
    rw [hreceived]
    constructor
    · rintro ⟨received, hok, error, hcode, hdecoded⟩
      split_ifs at hok with _ hfits
      cases hok
      refine ⟨by rw [← hcode]; cases error <;> decide, ?_, by omega⟩
      -- With the code alone the frame has 13 bytes.
      rintro rfl
      rw [decodeResponse_short hlen] at hdecoded
      simp only [Except.error.injEq, GatewayError.protocol.injEq] at hdecoded
      revert hdecoded
      cases error <;> decide
    · rintro ⟨hcode, hne, hfits⟩
      have hpos := length_pos_of_ne_nil hne
      refine ⟨_, by rw [if_neg (by omega), if_pos (by omega)], _, ofCode_discriminant hcode, ?_⟩
      rw [decodeResponse_framed hframe (by omega), if_pos rfl]
      simp [encodeData]

/-- The error of code 1 from meter 222222222222, and the rest of its data. -/
def noDataError (rest : Bytes) : MeterResponse := .error ⟨List.replicate 6 0x22, rfl⟩ 0x01 rest

/-- A line on which the response arrives in one read, and nothing after it. -/
def oneRead (sent : MeterResponse) (n : ℕ) : ReadOutcome :=
  if n = 0 then .data sent.frame else .timeout

/-- An error with its code alone: the receiver waits for a fourteenth byte, and the decoder refuses
    the frame. -/
theorem noDataError_lost :
    (noDataError []).WellFormed ∧ Delivers (oneRead (noDataError [])) 0 [(noDataError []).frame] ∧
      receiveFrame "closed" (oneRead (noDataError [])) = .error .readTimeout ∧
      decodeResponse (noDataError []).frame = .error (.protocol "Frame too short: 13 bytes") :=
  ⟨Nat.zero_lt_succ 254, ⟨rfl, by decide, rfl⟩, rfl, rfl⟩

/-- With a further byte behind the code the caller gets the error of code 1. -/
theorem noDataError_returned :
    ∃ frame, receiveFrame "closed" (oneRead (noDataError [0x00])) = .ok frame ∧
      (noDataError [0x00]).Returned (decodeResponse frame) := by
  have hsent : (noDataError [0x00]).WellFormed := show 1 < 255 by decide
  have hreads : Delivers (oneRead (noDataError [0x00])) 0 [(noDataError [0x00]).frame] :=
    ⟨rfl, by decide, rfl⟩
  exact (returned_iff "closed" (Nat.zero_le 4) hsent hreads rfl).2 ⟨by decide, by decide, by decide⟩

end AetherEdge.Io.Dl645
