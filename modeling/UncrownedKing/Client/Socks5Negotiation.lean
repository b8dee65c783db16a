import UncrownedKing.Client.Socks5Laws

/-!
# Every negotiation is answered

A negotiation is quiet while it succeeds and answers a failure at most once.
-/

namespace UncrownedKing.Client.Socks5

open Lib Net Proto
open DuplexM hiding readExact

def selectionBytes (method : UInt8) : Bytes := [version, method]

def replyBytes (reply : Reply) : Bytes := [version, reply.code, 0, atypIpv4, 0, 0, 0, 0, 0, 0]

def GreetingAnswer (_ : Option IoError) (_ : IoError) (answer : Bytes) : Prop :=
  answer = [] ∨ answer = selectionBytes methodNoAcceptable

def RequestAnswer (ending : Option IoError) (error : IoError) (answer : Bytes) : Prop :=
  (ending = some error ∧ error.kind ≠ .unexpectedEof ∧ answer = []) ∨
    ∃ reply : Reply, reply.code ≠ 0 ∧ answer = replyBytes reply

theorem refuse_eq (reply : Reply) (error : IoError) :
    (refuse reply error : SocksM α) = write (replyBytes reply) >>= fun _ => throw error := rfl

theorem quietOr_refuse (hreply : reply.code ≠ 0) (error : IoError) :
    QuietOr RequestAnswer (refuse reply error : SocksM α) := by
  intro s
  rw [refuse_eq]
  exact quietAt_answer (.inr ⟨reply, hreply, rfl⟩)

theorem quietOr_readGreeting : QuietOr GreetingAnswer readGreeting := by
  have hone : Reads unexpectedEof readU8 := (reads_readExact unexpectedEof 1).bind_pure _
  have hcatch : ∀ (error : IoError) (α : Type) (s : Duplex IoError),
      QuietAt GreetingAnswer s (truncatedGreeting error : SocksM α) := by
    intro error α s
    unfold truncatedGreeting
    split
    · exact quietAt_answer (.inr rfl)
    · exact quietAt_throw (.inl rfl)
  refine (hone.quietOr fun _ => .inl rfl).bind fun first => ?_
  split
  · exact fun s => quietAt_throw (.inl rfl)
  refine (hone.quietOr_catch fun s => hcatch _ _ s).bind fun methodCount => ?_
  split
  · exact fun s => quietAt_answer (.inr rfl)
  refine ((reads_readExact earlyEof _).quietOr_catch fun s => hcatch _ _ s).bind fun methods => ?_
  split
  · exact quietOr_pure ()
  · exact fun s => quietAt_answer (.inr rfl)

theorem quietOr_readRequestExact (n : Nat) : QuietOr RequestAnswer (readRequestExact n) := by
  refine (reads_readExact earlyEof n).quietOr_catch fun s => ?_
  unfold truncatedRequest
  split
  · exact quietOr_refuse (by decide) _ s
  · rename_i hkind
    refine quietAt_throw (.inl ?_)
    cases hending : s.ending with
    | none => simp [hending, earlyEof] at hkind
    | some error => exact ⟨rfl, by simpa [hending] using hkind, rfl⟩

theorem quietOr_readPort : QuietOr RequestAnswer readPort :=
  (quietOr_readRequestExact 2).bind fun _ => quietOr_pure _

theorem quietOr_readEndpoint (addrType : UInt8) :
    QuietOr RequestAnswer (readEndpoint addrType) := by
  unfold readEndpoint
  split
  · exact (quietOr_readRequestExact 4).bind fun _ => quietOr_readPort.bind fun _ => quietOr_pure _
  split
  · refine (quietOr_readRequestExact 1).bind fun len => ?_
    refine (quietOr_readRequestExact _).bind fun domain => quietOr_readPort.bind fun port => ?_
    split
    · exact quietOr_refuse (by decide) _
    · exact quietOr_pure _
  split
  · exact (quietOr_readRequestExact 16).bind fun _ => quietOr_readPort.bind fun _ => quietOr_pure _
  · exact quietOr_refuse (by decide) _

theorem quietOr_readRequest : QuietOr RequestAnswer readRequest := by
  have hhead : QuietOr RequestAnswer readRequestHead := by
    refine (quietOr_readRequestExact 4).bind fun head => ?_
    split
    · exact quietOr_refuse (by decide) _
    split
    · exact quietOr_refuse (by decide) _
    · exact quietOr_pure _
  refine hhead.bind fun head => ?_
  split
  · refine (quietOr_readEndpoint _).bind fun endpoint => ?_
    split
    · exact quietOr_pure _
    · exact quietOr_refuse (by decide) _
  split
  · refine (quietOr_readEndpoint _).bind fun endpoint => ?_
    split
    · exact quietOr_pure _
    · exact quietOr_refuse (by decide) _
  · exact quietOr_refuse (by decide) _

theorem truncatedGreeting_fails (error : IoError) (s : Duplex IoError) :
    ∃ e' s', (truncatedGreeting error : SocksM α).on s = (.error e', s') := by
  unfold truncatedGreeting
  split <;> exact ⟨_, _, rfl⟩

section

variable {s : Duplex IoError}

theorem readU8_eq_ok (h : readU8.on s = (.ok byte, s')) : s.rest = byte :: s'.rest := by
  obtain ⟨data, mid, hread, h⟩ := on_bind_eq_ok.mp h
  cases h
  obtain ⟨hlen, hrest⟩ := readExact_eq_ok hread
  obtain ⟨byte, rfl⟩ := List.length_eq_one_iff.mp hlen
  exact hrest

theorem greeting_of_ok (h : readGreeting.on s = (.ok (), s')) :
    ∃ methods : Bytes, methods.length < 256 ∧ methodNoAuth ∈ methods ∧
      s.rest = version :: UInt8.ofNat methods.length :: methods ++ s'.rest := by
  obtain ⟨first, s1, hfirst, h⟩ := on_bind_eq_ok.mp h
  split at h
  · cases h
  rename_i hversion
  obtain rfl : first = version := by simpa using hversion
  obtain ⟨methodCount, s2, hcount, h⟩ := on_bind_eq_ok.mp h
  split at h
  · cases h
  obtain ⟨methods, s3, hmethods, h⟩ := on_bind_eq_ok.mp h
  split at h
  · rename_i hmem
    cases h
    have hcount := readU8_eq_ok (on_tryCatch_eq_ok truncatedGreeting_fails hcount)
    obtain ⟨hlen, hmethods⟩ := readExact_eq_ok (on_tryCatch_eq_ok truncatedGreeting_fails hmethods)
    refine ⟨methods, hlen ▸ methodCount.toNat_lt, hmem, ?_⟩
    rw [readU8_eq_ok hfirst, hcount, hmethods, hlen, UInt8.ofNat_toNat]
    rfl
  · cases h

theorem readRequestExact_eq_ok (h : (readRequestExact n).on s = (.ok data, s')) :
    data.length = n ∧ s.rest = data ++ s'.rest := by
  refine readExact_eq_ok (on_tryCatch_eq_ok (fun error s => ?_) h)
  unfold truncatedRequest
  split <;> exact ⟨_, _, rfl⟩

theorem head_of_ok (h : readRequestHead.on s = (.ok head, s')) :
    s.rest = version :: head.command :: 0 :: head.addrType :: s'.rest := by
  obtain ⟨bytes, mid, hread, h⟩ := on_bind_eq_ok.mp h
  obtain ⟨hlen, hrest⟩ := readRequestExact_eq_ok hread
  match bytes, hlen with
  | [first, command, reserved, addrType], _ =>
    split at h
    · cases h
    split at h
    · cases h
    rename_i hversion hreserved
    obtain rfl : first = version := by simpa using hversion
    obtain rfl : reserved = 0 := by simpa using hreserved
    cases h
    exact hrest

theorem endpoint_of_ok (h : (readEndpoint addrType).on s = (.ok endpoint, s')) :
    addrType = endpoint.addrType ∧ s.rest = endpoint.body ++ s'.rest := by
  obtain ⟨_, n, _, hdecode, hread, hconsumed⟩ | ⟨e, e', _, -, hread⟩ := readersAgree addrType s
  · cases hread.symm.trans h
    obtain ⟨htype, -, hbody, -⟩ := body_of_decodeEndpoint hdecode
    exact ⟨htype, by rw [hconsumed.rest, ← hbody, List.take_append_drop]⟩
  · cases hread.symm.trans h

end

def Request.command : Request → UInt8
  | .connect _ => cmdConnect
  | .udpAssociate _ => cmdUdpAssociate

def Request.endpoint : Request → SocksEndpoint
  | .connect target => endpointFromTarget target
  | .udpAssociate endpoint => endpoint

theorem request_of_ok {s : Duplex IoError} (h : readRequest.on s = (.ok request, s')) :
    ∃ encoded, encodeEndpoint request.endpoint = .ok encoded ∧
      s.rest = version :: request.command :: 0 :: encoded ++ s'.rest := by
  obtain ⟨⟨command, addrType⟩, mid, hhead, h⟩ := on_bind_eq_ok.mp h
  rw [head_of_ok hhead]
  split at h
  · rename_i hcommand
    obtain rfl : command = cmdConnect := hcommand
    obtain ⟨endpoint, last, hendpoint, hlast⟩ := on_bind_eq_ok.mp h
    obtain ⟨rfl, hrest⟩ := endpoint_of_ok hendpoint
    split at hlast
    · rename_i target htarget
      cases hlast
      obtain ⟨rfl, hvalid⟩ := targetFromEndpoint_eq_ok.mp htarget
      refine ⟨_, encodeEndpoint_eq_ok.mpr ⟨validate_of_target hvalid, rfl⟩, ?_⟩
      rw [hrest]
      rfl
    · cases hlast
  split at h
  · rename_i hcommand
    obtain rfl : command = cmdUdpAssociate := hcommand
    obtain ⟨endpoint, last, hendpoint, hlast⟩ := on_bind_eq_ok.mp h
    obtain ⟨rfl, hrest⟩ := endpoint_of_ok hendpoint
    split at hlast
    · rename_i hvalid
      cases hlast
      refine ⟨_, encodeEndpoint_eq_ok.mpr ⟨hvalid, rfl⟩, ?_⟩
      rw [hrest]
      rfl
    · cases hlast
  · cases h

/-- A request that comes out was all there was to read; a failure is answered as its place
demands. -/
theorem negotiation_answered (s : Duplex IoError) :
    (∀ request s', negotiateRequest.on s = (.ok request, s') →
      s'.written = s.written ++ [5, 0] ∧
      ∃ methods encoded : Bytes, methods.length < 256 ∧ 0 ∈ methods ∧
        encodeEndpoint request.endpoint = .ok encoded ∧
        s.rest = (5 :: UInt8.ofNat methods.length :: methods) ++
          (5 :: request.command :: 0 :: encoded) ++ s'.rest) ∧
    (∀ e s', readGreeting.on s = (.error e, s') →
      negotiateRequest.on s = (.error e, s') ∧
      (s'.written = s.written ∨ s'.written = s.written ++ [5, 0xff])) ∧
    ∀ mid e s', readGreeting.on s = (.ok (), mid) → negotiateRequest.on s = (.error e, s') →
      (s.ending = some e ∧ e.kind ≠ .unexpectedEof ∧ s'.written = s.written ++ [5, 0]) ∨
      ∃ reply : Reply, reply.code ≠ 0 ∧
        s'.written = s.written ++ [5, 0] ++ [5, reply.code, 0, 1, 0, 0, 0, 0, 0, 0] := by
  obtain ⟨hquiet, hanswer⟩ := quietOr_readGreeting s
  -- the request is read behind the selection of a method
  have hafter : ∀ mid, readGreeting.on s = (.ok (), mid) → negotiateRequest.on s =
      readRequest.on { mid with written := s.written ++ [5, 0] } := by
    intro mid hmid
    rw [← (hquiet _ _ hmid).2]
    exact (on_bind_ok hmid).trans (on_bind_ok (on_write _ _))
  refine ⟨fun request s' hok => ?_, fun e s' herror => ?_, fun mid e s' hmid herror => ?_⟩
  · obtain ⟨⟨⟩, mid, hmid, -⟩ := on_bind_eq_ok.mp hok
    rw [hafter mid hmid] at hok
    refine ⟨((quietOr_readRequest _).1 _ _ hok).2, ?_⟩
    obtain ⟨methods, hlen, hmem, hgreeting⟩ := greeting_of_ok hmid
    obtain ⟨encoded, hencoded, hrequest⟩ := request_of_ok hok
    refine ⟨methods, encoded, hlen, hmem, hencoded, ?_⟩
    have hrest : mid.rest = version :: request.command :: 0 :: encoded ++ s'.rest := hrequest
    rw [hgreeting, hrest, List.append_assoc]
    rfl
  · refine ⟨on_bind_error herror, ?_⟩
    obtain ⟨answer, hwritten, rfl | rfl⟩ := hanswer e s' herror
    · exact .inl (by rw [hwritten, List.append_nil])
    · exact .inr hwritten
  · rw [hafter mid hmid] at herror
    obtain ⟨answer, hwritten, ⟨hending, hkind, rfl⟩ | ⟨reply, hreply, rfl⟩⟩ :=
      (quietOr_readRequest _).2 _ _ herror
    · exact .inl ⟨(hquiet _ _ hmid).1 ▸ hending, hkind, by rw [hwritten, List.append_nil]⟩
    · exact .inr ⟨reply, hreply, hwritten⟩

example :
    negotiateRequest.on ⟨[[5, 1, 0, 5], [1, 0, 1, 127, 0, 0], [1, 0, 80, 7]], none, []⟩ =
      (.ok (.connect (.ipv4 (.new 127 0 0 1) 80)), ⟨[[7]], none, [5, 0]⟩) := by
  decide

end UncrownedKing.Client.Socks5
