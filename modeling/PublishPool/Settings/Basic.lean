import PublishPool.Value.Literal

/-!
Pool settings.

`Settings` holds every setting of a publishing pool after checking: whether the
pool is on, its log label, the number of workers, the broker addresses in order,
the topics (a set, kept sorted), the TLS file paths, the delivery timeout, the
worker loop's intervals and batch size, the queue lock timeout, the retry policy's
parameters and the metadata options. The defaults are those of a pool configured
by nothing.

`Settings.describe` is the one-line description of a pool, and `Settings.dump`
lists every field as a value under its name.
-/

namespace PublishPool

/-- The checked settings of a publishing pool. -/
structure Settings where
  enabled : Bool := true
  /-- A text when checked; a label given by the caller is kept as it is. -/
  logLabel : Value := .str "ktp"
  numThreads : Nat := 5
  brokers : List String := []
  topics : List String := []
  tlsClientKey : String := ""
  tlsClientCert : String := ""
  tlsClientCa : String := ""
  messageTimeoutMs : Nat := 5000
  publishRetryIntervalSec : Float := 1.0
  publishIdleIntervalSec : Float := 0.5
  maxBatchSize : Nat := 10
  lockTimeoutSec : Float := 10.0
  retryMaxAttempts : Option Nat := none
  retryBackoffMultiplier : Float := 1.0
  retryMaxIntervalSec : Float := 30.0
  metadataCountMsgOffsets : Bool := true
  metadataTimeoutSec : Float := 30.0
  watermarkTimeoutSec : Float := 1.0
  deriving Inhabited

namespace Settings

/-- The label that prefixes the pool's log lines. -/
def label (s : Settings) : String := s.logLabel.display

/-- TLS is on when any of the three paths is given. -/
def tlsEnabled (s : Settings) : Bool :=
  !s.tlsClientKey.isEmpty || !s.tlsClientCert.isEmpty || !s.tlsClientCa.isEmpty

/-- There is a broker to connect to: the list is nonempty and its first entry is
not empty. -/
def hasBrokers (s : Settings) : Bool :=
  match s.brokers with
  | [] => false
  | b :: _ => !b.isEmpty

/-- A flag's literal. -/
def flagText (b : Bool) : String := if b then "True" else "False"

/-- The one-line description of the settings. -/
def describe (s : Settings) : String :=
  "KafkaClientConfig label=" ++ s.label ++
  " enabled=" ++ flagText s.enabled ++
  " tls key=" ++ s.tlsClientKey ++ " cert=" ++ s.tlsClientCert ++ " ca=" ++ s.tlsClientCa ++
  " retry_sleep=" ++ Value.floatNotation.render s.publishRetryIntervalSec ++
  " idle_sleep=" ++ Value.floatNotation.render s.publishIdleIntervalSec ++
  " threads=" ++ toString s.numThreads ++
  " broker_list=" ++ Value.textListLiteral s.brokers ++
  " topics=" ++ Value.textListLiteral s.topics

/-- Every setting under its name, in declaration order. -/
def dump (s : Settings) : List (String × Value) :=
  [("enabled", .bool s.enabled),
   ("log_label", s.logLabel),
   ("num_threads", .int s.numThreads),
   ("brokers", .list (s.brokers.map .str)),
   ("topics", .list (s.topics.map .str)),
   ("tls_client_key", .str s.tlsClientKey),
   ("tls_client_cert", .str s.tlsClientCert),
   ("tls_client_ca", .str s.tlsClientCa),
   ("message_timeout_ms", .int s.messageTimeoutMs),
   ("publish_retry_interval_sec", .float s.publishRetryIntervalSec),
   ("publish_idle_interval_sec", .float s.publishIdleIntervalSec),
   ("max_batch_size", .int s.maxBatchSize),
   ("lock_timeout_sec", .float s.lockTimeoutSec),
   ("retry_max_attempts", match s.retryMaxAttempts with
     | some n => .int n
     | none => .none),
   ("retry_backoff_multiplier", .float s.retryBackoffMultiplier),
   ("retry_max_interval_sec", .float s.retryMaxIntervalSec),
   ("metadata_count_msg_offsets", .bool s.metadataCountMsgOffsets),
   ("metadata_timeout_sec", .float s.metadataTimeoutSec),
   ("watermark_timeout_sec", .float s.watermarkTimeoutSec)]

end Settings

end PublishPool
