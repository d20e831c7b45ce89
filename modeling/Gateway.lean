import Gateway.Types
import Gateway.Services.HashHistory
import Gateway.Codec.Rlp
import Gateway.Codec.Ssz
import Gateway.Codec.Hex
import Gateway.Services.BlockProcessor
import Gateway.Services.Processed
import Gateway.Services.RoundTrip
import Gateway.Services.Envelope
import Gateway.Services.BeaconSize
import Gateway.Blockchain.Bridge
import Gateway.Blockchain.Delivery
import Gateway.Servers.Handler
import Gateway.Servers.Responses
import Gateway.Servers.Auth
import Gateway.Servers.NextValidator
import Gateway.Servers.Validate
import Gateway.Servers.MultiTxs
import Gateway.Servers.Filter
import Gateway.Servers.FilterText
import Gateway.Servers.FilterRewrite
import Gateway.Servers.Subscribe
import Gateway.Servers.OnBlock
import Gateway.Servers.Session
import Gateway.Servers.WsLifecycle
