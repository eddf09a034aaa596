import CurlScribe.Flag.Table

namespace CurlScribe

namespace Flag

def toggle (name : String) (short : List String) : Flag :=
  { name, kind := .toggle, long := [name], short, negatable := true }

def text (name : String) (short : List String) : Flag :=
  { name, kind := .text, long := [name], short }

def list (name : String) (short : List String) : Flag :=
  { name, kind := .list, long := [name], short }

def choice (name : String) (choices : List String) : Flag :=
  { name, kind := .choice, long := [name], choices }

def switched (name : String) (choices long short : List String)
    (switches : List (String × String)) : Flag :=
  { name, kind := .choice, long, short, choices, switches }

def withDeprecated (f : Flag) (word remark : String) : Flag :=
  { f with long := f.long ++ [word], deprecated := (longSpelling word, remark) :: f.deprecated }

def withoutEffect (f : Flag) (spellings : List String) : Flag :=
  { f with deprecated := f.deprecated ++ spellings.map fun s => (s, s ++ " has no effect") }

def ofRequest : List Flag :=
  [list "url" [], text "request" ["X"], text "request-target" [], toggle "head" ["I"],
   toggle "get" ["G"], toggle "globoff" ["g"], toggle "path-as-is" [], text "upload-file" ["T"],
   list "header" ["H"], list "proxy-header" [], text "user-agent" ["A"], text "referer" ["e"],
   list "data" ["d"], list "data-ascii" [], list "data-binary" [], list "data-raw" [],
   list "data-urlencode" [], list "json" [], list "form" ["F"], list "form-string" [],
   text "user" ["u"],
   switched "auth-scheme" ["basic", "digest", "ntlm", "ntlm-wb", "negotiate", "anyauth"]
     ["basic", "digest", "ntlm", "ntlm-wb", "negotiate", "anyauth"] []
     [("--basic", "basic"), ("--digest", "digest"), ("--ntlm", "ntlm"), ("--ntlm-wb", "ntlm-wb"),
      ("--negotiate", "negotiate"), ("--anyauth", "anyauth")],
   text "oauth2-bearer" [], text "aws-sigv4" [], toggle "netrc" ["n"], toggle "netrc-optional" [],
   text "netrc-file" [], choice "delegation" ["none", "policy", "always"],
   list "cookie" ["b"], text "cookie-jar" ["c"], toggle "junk-session-cookies" ["j"],
   toggle "insecure" ["k"], text "cert" ["E"], text "key" [],
   choice "cert-type" ["PEM", "DER", "ENG", "P12"], choice "key-type" ["PEM", "DER", "ENG"],
   text "pass" [], text "cacert" [], text "capath" [], text "ciphers" [], text "pinnedpubkey" [],
   (toggle "ssl" []).withDeprecated "ftp-ssl" "--ftp-ssl is deprecated, use --ssl",
   (toggle "ssl-reqd" []).withDeprecated "ftp-ssl-reqd"
     "--ftp-ssl-reqd is deprecated, use --ssl-reqd",
   toggle "ssl-no-revoke" [],
   (switched "tls-version" ["1", "1.0", "1.1", "1.2", "1.3", "ssl2", "ssl3"]
     ["tlsv1", "tlsv1.0", "tlsv1.1", "tlsv1.2", "tlsv1.3", "sslv2", "sslv3"] ["1", "2", "3"]
     [("--tlsv1", "1"), ("-1", "1"), ("--tlsv1.0", "1.0"), ("--tlsv1.1", "1.1"),
      ("--tlsv1.2", "1.2"), ("--tlsv1.3", "1.3"), ("--sslv2", "ssl2"), ("-2", "ssl2"),
      ("--sslv3", "ssl3"), ("-3", "ssl3")]).withoutEffect ["--sslv2", "-2", "--sslv3", "-3"],
   choice "tls-max" ["1.0", "1.1", "1.2", "1.3", "default"],
   (text "random-file" []).withoutEffect ["--random-file"],
   (text "egd-file" []).withoutEffect ["--egd-file"],
   text "proxy" ["x"], text "proxy-user" ["U"], toggle "proxy-insecure" [],
   toggle "proxytunnel" ["p"], text "noproxy" [], text "preproxy" [], text "socks4" [],
   text "socks4a" [], text "socks5" [], text "socks5-hostname" [],
   toggle "location" ["L"], toggle "location-trusted" [], text "max-redirs" [],
   toggle "post301" [], toggle "post302" [], toggle "post303" [],
   text "max-time" ["m"], text "connect-timeout" [], text "expect100-timeout" [],
   toggle "compressed" [], toggle "tr-encoding" [],
   switched "http-version" ["1.0", "1.1", "2", "2-prior-knowledge", "3"]
     ["http1.0", "http1.1", "http2", "http2-prior-knowledge", "http3"] ["0"]
     [("--http1.0", "1.0"), ("-0", "1.0"), ("--http1.1", "1.1"), ("--http2", "2"),
      ("--http2-prior-knowledge", "2-prior-knowledge"), ("--http3", "3")],
   toggle "http0.9" [], text "range" ["r"], text "continue-at" ["C"], text "time-cond" ["z"],
   text "limit-rate" [], text "max-filesize" [], toggle "fail" ["f"], toggle "fail-with-body" [],
   toggle "ipv4" ["4"], toggle "ipv6" ["6"], list "resolve" [], list "connect-to" [],
   text "interface" [], text "local-port" [], text "unix-socket" [], text "abstract-unix-socket" [],
   toggle "keepalive" [], text "keepalive-time" [], toggle "tcp-nodelay" [], text "retry" [],
   text "retry-delay" [], text "retry-max-time" [], toggle "retry-connrefused" [],
   toggle "retry-all-errors" [], text "config" ["K"],
   { toggle "next" [":"] with negatable := false },
   (text "krb" []).withDeprecated "krb4" "--krb4 is deprecated, use --krb",
   toggle "use-ascii" ["B"], toggle "append" ["a"], toggle "list-only" ["l"], text "ftp-port" ["P"],
   list "quote" ["Q"], list "telnet-option" ["t"], text "speed-time" ["y"],
   text "speed-limit" ["Y"]]

def ofOutput : List Flag :=
  [toggle "verbose" ["v"], toggle "silent" ["s"], toggle "show-error" ["S"],
   toggle "progress-bar" ["#"], toggle "progress-meter" [],
   { toggle "no-buffer" ["N"] with negatable := false },
   toggle "include" ["i"], list "output" ["o"], toggle "remote-name" ["O"],
   toggle "remote-name-all" [], toggle "remote-header-name" ["J"], toggle "remote-time" ["R"],
   text "output-dir" [], toggle "create-dirs" [], text "create-file-mode" [],
   text "dump-header" ["D"], text "trace" [], text "trace-ascii" [], toggle "trace-time" [],
   text "stderr" [], text "write-out" ["w"], toggle "styled-output" [], toggle "xattr" [],
   toggle "fail-early" [], toggle "parallel" ["Z"], text "parallel-max" [],
   toggle "parallel-immediate" [], toggle "disable" ["q"], text "libcurl" [], toggle "help" ["h"],
   toggle "version" ["V"], toggle "manual" ["M"]]

def own : List Flag :=
  [text "language" [], { toggle "stdin" [] with negatable := false }]

end Flag

namespace FlagTable

def curl : FlagTable :=
  ⟨Flag.ofRequest ++ Flag.ofOutput,
    conflicts_eq_nil_of_hashes (by decide +kernel) (by decide +kernel)⟩

def program : FlagTable :=
  ⟨curl.flags ++ Flag.own,
    conflicts_append curl.noConflict (by decide +kernel) (by decide +kernel)⟩

end FlagTable

end CurlScribe
