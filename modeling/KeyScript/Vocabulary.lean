import KeyScript.Text.Basic

/-! The command language: command names, and the subwords that may follow a
container command. -/
namespace KeyScript.Vocabulary

def singles : List String := [
  "APPEND", "AUTH", "BGREWRITEAOF", "BGSAVE", "BITCOUNT", "BITFIELD", "BITFIELD_RO", "BITOP",
  "BITPOS", "BLMOVE", "BLPOP", "BRPOP", "BRPOPLPUSH", "BZPOPMAX", "BZPOPMIN", "COMMAND", "COPY",
  "DBSIZE", "DECR", "DECRBY", "DEL", "DISCARD", "DUMP", "ECHO", "EVAL", "EVALSHA", "EXEC",
  "EXISTS", "EXPIRE", "EXPIREAT", "FAILOVER", "FLUSHALL", "FLUSHDB", "GEOADD", "GEODIST",
  "GEOHASH", "GEOPOS", "GEORADIUS", "GEORADIUSBYMEMBER", "GEOSEARCH", "GEOSEARCHSTORE", "GET",
  "GETBIT", "GETDEL", "GETEX", "GETRANGE", "GETSET", "HDEL", "HELLO", "HEXISTS", "HGET",
  "HGETALL", "HINCRBY", "HINCRBYFLOAT", "HKEYS", "HLEN", "HMGET", "HMSET", "HRANDFIELD", "HSCAN",
  "HSET", "HSETNX", "HSTRLEN", "HVALS", "INCR", "INCRBY", "INCRBYFLOAT", "INFO", "KEYS",
  "LASTSAVE", "LINDEX", "LINSERT", "LLEN", "LMOVE", "LOLWUT", "LPOP", "LPOS", "LPUSH", "LPUSHX",
  "LRANGE", "LREM", "LSET", "LTRIM", "MGET", "MIGRATE", "MONITOR", "MOVE", "MSET", "MSETNX",
  "MULTI", "OBJECT", "PERSIST", "PEXPIRE", "PEXPIREAT", "PFADD", "PFCOUNT", "PFMERGE", "PING",
  "PSETEX", "PSUBSCRIBE", "PSYNC", "PTTL", "PUBLISH", "PUBSUB", "PUNSUBSCRIBE", "QUIT",
  "RANDOMKEY", "READONLY", "READWRITE", "RENAME", "RENAMENX", "REPLICAOF", "RESET", "RESTORE",
  "ROLE", "RPOP", "RPOPLPUSH", "RPUSH", "RPUSHX", "SADD", "SAVE", "SCAN", "SCARD", "SDIFF",
  "SDIFFSTORE", "SELECT", "SET", "SETBIT", "SETEX", "SETNX", "SETRANGE", "SHUTDOWN", "SINTER",
  "SINTERSTORE", "SISMEMBER", "SLAVEOF", "SLOWLOG", "SMEMBERS", "SMISMEMBER", "SMOVE", "SORT",
  "SPOP", "SRANDMEMBER", "SREM", "SSCAN", "STRALGO", "STRLEN", "SUBSCRIBE", "SUNION",
  "SUNIONSTORE", "SWAPDB", "SYNC", "TIME", "TOUCH", "TTL", "TYPE", "UNLINK", "UNSUBSCRIBE",
  "UNWATCH", "WAIT", "WATCH", "XACK", "XADD", "XAUTOCLAIM", "XCLAIM", "XDEL", "XGROUP", "XINFO",
  "XLEN", "XPENDING", "XRANGE", "XREAD", "XREADGROUP", "XREVRANGE", "XTRIM", "ZADD", "ZCARD",
  "ZCOUNT", "ZDIFF", "ZDIFFSTORE", "ZINCRBY", "ZINTER", "ZINTERSTORE", "ZLEXCOUNT", "ZMSCORE",
  "ZPOPMAX", "ZPOPMIN", "ZRANDMEMBER", "ZRANGE", "ZRANGEBYLEX", "ZRANGEBYSCORE", "ZRANGESTORE",
  "ZRANK", "ZREM", "ZREMRANGEBYLEX", "ZREMRANGEBYRANK", "ZREMRANGEBYSCORE", "ZREVRANGE",
  "ZREVRANGEBYLEX", "ZREVRANGEBYSCORE", "ZREVRANK", "ZSCAN", "ZSCORE", "ZUNION", "ZUNIONSTORE"]

/-- A command that is completed by one of its subwords. -/
structure Container where
  name : String
  subwords : List String

def containers : List Container := [
  ⟨"ACL", [
    "LOAD", "SAVE", "LIST", "USERS", "GETUSER", "SETUSER", "DELUSER", "CAT", "GENPASS", "WHOAMI",
    "LOG", "HELP"]⟩,
  ⟨"CLIENT", [
    "CACHING", "ID", "INFO", "KILL", "LIST", "GETNAME", "GETREDIR", "UNPAUSE", "PAUSE", "REPLY",
    "SETNAME", "TRACKING", "TRACKINGINFO", "UNBLOCK"]⟩,
  ⟨"CLUSTER", [
    "ADDSLOTS", "BUMPEPOCH", "COUNT-FAILURE-REPORTS", "COUNTKEYSINSLOT", "DELSLOTS", "FAILOVER",
    "FLUSHSLOTS", "FORGET", "GETKEYSINSLOT", "INFO", "KEYSLOT", "MEET", "MYID", "NODES",
    "REPLICATE", "RESET", "SAVECONFIG", "SET-CONFIG-EPOCH", "SETSLOT", "SLAVES", "REPLICAS",
    "SLOTS"]⟩,
  ⟨"COMMAND", [
    "COUNT", "GETKEYS", "INFO"]⟩,
  ⟨"CONFIG", [
    "GET", "REWRITE", "SET", "RESETSTAT"]⟩,
  ⟨"DEBUG", [
    "OBJECT", "SEGFAULT"]⟩,
  ⟨"MEMORY", [
    "DOCTOR", "HELP", "MALLOC-STATS", "PURGE", "STATS", "USAGE"]⟩,
  ⟨"MODULE", [
    "LIST", "LOAD", "UNLOAD"]⟩,
  ⟨"SCRIPT", [
    "DEBUG", "EXISTS", "FLUSH", "KILL", "LOAD"]⟩,
  ⟨"LATENCY", [
    "DOCTOR", "GRAPH", "HISTORY", "LATEST", "RESET", "HELP"]⟩]

def subwords? (word : String) : Option (List String) :=
  (containers.find? (·.name == word)).map (·.subwords)

/-- Names that make a word a keyword. -/
def names : List String := singles ++ containers.map (·.name)

def foldedNames : List (List Char) := names.map Text.folded

def isCommand (word : String) : Bool := foldedNames.contains (Text.folded word)

/-- A container with its subword is written with one space. -/
def Container.commands (container : Container) : List String :=
  container.subwords.map (container.name ++ " " ++ ·)

/-- Everything that can be completed, sorted and without repetition. -/
def commands : List String :=
  ((singles ++ containers.flatMap Container.commands).mergeSort fun a b => !decide (b < a)).eraseReps

end KeyScript.Vocabulary
