import HttpServer.Config.Document
import HttpServer.Main
import HttpServer.Proofs.Body.Chunks
import HttpServer.Proofs.Body.Feeding
import HttpServer.Proofs.Connection.Replying
import HttpServer.Proofs.Head.Canonical
import HttpServer.Proofs.Head.Feeding
import HttpServer.Proofs.Response.Faithful
import HttpServer.Proofs.Body.Payload
import HttpServer.Proofs.Routing
import HttpServer.Proofs.Connection.Buffering
import HttpServer.Proofs.Connection.Streaming
import HttpServer.Proofs.Connection.Containing
import HttpServer.Proofs.Connection.Stamping
import HttpServer.Proofs.Connection.Surplus
import HttpServer.Proofs.Demo.Echoing
import HttpServer.Proofs.Server.Life
import HttpServer.Proofs.Workers.Waiting
import HttpServer.Proofs.Connection.Isolating
import HttpServer.Proofs.Schedule.Retirement
import HttpServer.Proofs.Spelling
import HttpServer.Proofs.Relaying
import HttpServer.Proofs.Connection.HeadOnly
import HttpServer.Proofs.Schedule.Pruning
import HttpServer.Proofs.Schedule.Looping
import HttpServer.Proofs.Accepting
import HttpServer.Proofs.Multimap
import HttpServer.Proofs.Config.Reading
import HttpServer.Proofs.Overriding
import HttpServer.Proofs.Demo.Answering
import HttpServer.Proofs.Endpoints
import HttpServer.Proofs.Body.Progress
import HttpServer.Proofs.Workers.Balancing
