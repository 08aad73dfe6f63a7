import PublishPool.Settings.Basic
import PublishPool.Fault

/-!
Broker client settings.

A client needs at least one broker (`Settings.hasBrokers`). Its settings map
lists the brokers joined by commas, then the security protocol: `SSL` with the
three TLS paths and certificate verification when any TLS path is given,
`PLAINTEXT` otherwise, and last the caller's overrides, each replacing an entry of
the same name in its place or going last. A producer adds its delivery timeout; a
consumer, used for metadata only, adds a group named after the label and turns
automatic commits off.
-/

namespace PublishPool

namespace Settings

/-- Entries replaced or appended in order, as successive updates of a map. -/
def updateAll (base : List (String × Value)) (more : List (String × Value)) :
    List (String × Value) :=
  more.foldl (fun acc (k, v) => Value.insertEntry acc k v) base

/-- The client settings map with overrides. -/
def clientSettings (s : Settings) (overrides : List (String × Value)) :
    Except Fault (List (String × Value)) :=
  if !s.hasBrokers then .error (.noBrokers s.brokers)
  else
    let servers := ("bootstrap.servers", Value.str (",".intercalate s.brokers))
    let security : List (String × Value) :=
      if s.tlsEnabled then
        [("security.protocol", .str "SSL"), ("ssl.ca.location", .str s.tlsClientCa),
         ("ssl.key.location", .str s.tlsClientKey),
         ("ssl.certificate.location", .str s.tlsClientCert),
         ("enable.ssl.certificate.verification", .bool true)]
      else [("security.protocol", .str "PLAINTEXT")]
    .ok (updateAll (servers :: security) overrides)

/-- The settings of a producer. -/
def producerSettings (s : Settings) : Except Fault (List (String × Value)) :=
  s.clientSettings [("message.timeout.ms", .int s.messageTimeoutMs)]

/-- The settings of a metadata consumer. -/
def consumerSettings (s : Settings) : Except Fault (List (String × Value)) :=
  s.clientSettings [("group.id", .str (s.label ++ "-metadata")), ("enable.auto.commit", .bool false)]

end Settings

end PublishPool
