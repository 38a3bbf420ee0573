/-!
# Statistics

Counters of what the translator did. Every packet that is not passed on is counted under the
reason it was dropped for.
-/

namespace PortalNat

/-- Why a packet was dropped. -/
inductive DropReason where
  | malformed
  | fragmented
  | filtered
  | unknownSession
  | noReader
  | exhausted
  | redirectorStopped
deriving DecidableEq, Repr

/-- Something that is counted. -/
inductive Event where
  | read
  | written
  | redirected
  | restored
  | datagram
  | reply
  | echo
  | accepted
  | rejected
  | dropped (reason : DropReason)
deriving DecidableEq, Repr

/-- The counters of one translator. They have no bound here: a counter of sixty-four bits shows them
modulo 2^64. -/
structure Statistics where
  packetsRead : Nat := 0
  packetsWritten : Nat := 0
  tcpRedirected : Nat := 0
  tcpReplies : Nat := 0
  udpDatagrams : Nat := 0
  udpReplies : Nat := 0
  icmpEchoReplies : Nat := 0
  droppedMalformed : Nat := 0
  droppedFragmented : Nat := 0
  droppedFiltered : Nat := 0
  droppedUnknownSession : Nat := 0
  droppedNoReader : Nat := 0
  droppedRedirectorStopped : Nat := 0
  sessionsExhausted : Nat := 0
  connectionsAccepted : Nat := 0
  connectionsRejected : Nat := 0
deriving DecidableEq, Repr, Inhabited

namespace Statistics

/-- Count one event. -/
def record (statistics : Statistics) : Event → Statistics
  | .read => { statistics with packetsRead := statistics.packetsRead + 1 }
  | .written => { statistics with packetsWritten := statistics.packetsWritten + 1 }
  | .redirected => { statistics with tcpRedirected := statistics.tcpRedirected + 1 }
  | .restored => { statistics with tcpReplies := statistics.tcpReplies + 1 }
  | .datagram => { statistics with udpDatagrams := statistics.udpDatagrams + 1 }
  | .reply => { statistics with udpReplies := statistics.udpReplies + 1 }
  | .echo => { statistics with icmpEchoReplies := statistics.icmpEchoReplies + 1 }
  | .accepted => { statistics with connectionsAccepted := statistics.connectionsAccepted + 1 }
  | .rejected => { statistics with connectionsRejected := statistics.connectionsRejected + 1 }
  | .dropped .malformed => { statistics with droppedMalformed := statistics.droppedMalformed + 1 }
  | .dropped .fragmented =>
    { statistics with droppedFragmented := statistics.droppedFragmented + 1 }
  | .dropped .filtered => { statistics with droppedFiltered := statistics.droppedFiltered + 1 }
  | .dropped .unknownSession =>
    { statistics with droppedUnknownSession := statistics.droppedUnknownSession + 1 }
  | .dropped .noReader => { statistics with droppedNoReader := statistics.droppedNoReader + 1 }
  | .dropped .exhausted =>
    { statistics with sessionsExhausted := statistics.sessionsExhausted + 1 }
  | .dropped .redirectorStopped =>
    { statistics with droppedRedirectorStopped := statistics.droppedRedirectorStopped + 1 }

/-- Count several events. -/
def recordAll (statistics : Statistics) (events : List Event) : Statistics :=
  events.foldl record statistics

/-- The number of dropped packets. -/
def dropped (statistics : Statistics) : Nat :=
  statistics.droppedMalformed + statistics.droppedFragmented + statistics.droppedFiltered
    + statistics.droppedUnknownSession + statistics.droppedNoReader
    + statistics.droppedRedirectorStopped + statistics.sessionsExhausted

/-- The counters under the names they are published by. -/
def counters (statistics : Statistics) : List (String × Nat) :=
  [("packets_read", statistics.packetsRead),
    ("packets_written", statistics.packetsWritten),
    ("tcp_redirected", statistics.tcpRedirected),
    ("tcp_replies", statistics.tcpReplies),
    ("udp_datagrams", statistics.udpDatagrams),
    ("udp_replies", statistics.udpReplies),
    ("icmp_echo_replies", statistics.icmpEchoReplies),
    ("dropped_malformed", statistics.droppedMalformed),
    ("dropped_fragmented", statistics.droppedFragmented),
    ("dropped_filtered", statistics.droppedFiltered),
    ("dropped_unknown_session", statistics.droppedUnknownSession),
    ("dropped_no_reader", statistics.droppedNoReader),
    ("dropped_redirector_stopped", statistics.droppedRedirectorStopped),
    ("sessions_exhausted", statistics.sessionsExhausted),
    ("connections_accepted", statistics.connectionsAccepted),
    ("connections_rejected", statistics.connectionsRejected)]

/-- The counters that moved since an earlier moment, and by how much. -/
def since (statistics earlier : Statistics) : List (String × Nat) :=
  ((statistics.counters.zip earlier.counters).map fun ((name, now), (_, before)) =>
    (name, now - before)).filter (·.2 ≠ 0)

end Statistics

end PortalNat
